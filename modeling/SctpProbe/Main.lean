import SctpProbe.CommandLine.Run
set_option autoImplicit false

open SctpProbe CommandLine in
def main (args : List String) : IO UInt32 := do
  let r := run args ServerSocket.silent
  for s in r.shown do
    match s with
    | .out line => IO.println line
    | .err line => IO.eprintln line
    | .event _ => pure ()
  match r.ending with
  | .status n => return UInt32.ofNat n.toNat
  | .fault f =>
    IO.eprintln f.message
    return 1
