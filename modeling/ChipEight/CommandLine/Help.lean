/-!
# Help

The usage lines, which also stand in front of every usage error, and the whole help text.
-/

namespace ChipEight.Help

/-- How the command is called. -/
def usage : List String :=
  ["usage: chip8 [-h] [--config CONFIG] [--frames FRAMES]",
    "             [--cycles-per-second CYCLES_PER_SECOND]",
    "             [--fault-policy \x7bfreeze,skip,halt\x7d] [--legacy-shift]",
    "             [--hold-key HEX] [--realtime] [--screenshot SCREENSHOT]",
    "             [--zoom ZOOM] [--log-level \x7bDEBUG,INFO,WARNING,ERROR\x7d]",
    "             rom"]

/-- What the command does and what its arguments mean. -/
def details : List String :=
  ["",
    "Run a CHIP-8 ROM headless",
    "",
    "positional arguments:",
    "  rom                   Path to the ROM image",
    "",
    "options:",
    "  -h, --help            show this help message and exit",
    "  --config CONFIG       JSON machine configuration to start from",
    "  --frames FRAMES       Number of 60 Hz frames to run (default: 600, ten",
    "                        seconds)",
    "  --cycles-per-second CYCLES_PER_SECOND",
    "                        Instructions executed per second",
    "  --fault-policy \x7bfreeze,skip,halt\x7d",
    "                        What to do after a fault (default: freeze)",
    "  --legacy-shift        8XY6/8XYE shift Vy into Vx (COSMAC VIP behaviour)",
    "  --hold-key HEX        Hold a keypad key down for the whole run (repeatable)",
    "  --realtime            Pace frames at wall-clock speed instead of running",
    "                        flat out",
    "  --screenshot SCREENSHOT",
    "                        Save the final screen to this image file",
    "  --zoom ZOOM           Screenshot pixel zoom",
    "  --log-level \x7bDEBUG,INFO,WARNING,ERROR\x7d",
    "                        Logging verbosity"]

/-- Lines as a text, each ended by a new line. -/
def unlines (lines : List String) : String :=
  String.join (lines.map fun line => line ++ "\n")

/-- The help text. -/
def text : String :=
  unlines (usage ++ details)

end ChipEight.Help
