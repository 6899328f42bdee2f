import GrammarStudio.Machine.Serve

/-!
# How a machine runs

It lets one program after the other go on until it has to wait for something; when all of them wait, it lets time pass
until the first of them wakes up.

* `Kernel.turn`, `Kernel.run` — one program's turn, and all of them to the end;
* `runProgram` — one program with all that it starts.

Time is counted in millionths of a second.  Each call takes a little of it, so that a program that only counts does not
stop the clock.
-/

namespace GrammarStudio.Machine

namespace Kernel

/-- How long a call takes. -/
def callTime : Nat := 2

/-- The parent of programs whose own parent has ended. -/
def orphanage : Nat := 1

/-- A program has ended: what it had open is closed, and its parent can ask how. -/
def finish (k : Kernel) (p : Process) (ending : Ending) : Kernel :=
  let k := { k with
    processes := k.processes.map fun (q : Process) => if q.parent = p.number then { q with parent := orphanage } else q
    ended := ⟨p.number, p.parent, ending⟩ :: k.ended.filter fun r => r.parent ≠ p.number && r.parent ≠ orphanage }
  k.tidy { p with descriptors := [] }

/-- What came of a turn. -/
inductive Turn where
  | waits (p : Process) (wakes : Option Nat) (moved : Bool)
  | goesOn (p : Process)
  | ended

/-- Lets a program go on, for a while or until it waits.  `moved` says whether it has done anything. -/
def turn (programs : Image → Work Nat) (moved : Bool) : (fuel : Nat) → Kernel → Process → Turn × Kernel
  | 0, k, p => (.goesOn p, k)
  | fuel + 1, k, p =>
    match p.fate with
    | some signal => (.ended, k.finish p (.signal signal))
    | none =>
      match p.activity with
      | .done status => (.ended, k.finish p (.status status))
      | .become image =>
        let (p, k) := k.handOver p (programs image).activity
        turn programs true fuel k p
      | .fork child next =>
        let number := k.next
        let q : Process := { p with number, parent := p.number, activity := child, caught := [] }
        let k := { k with processes := k.processes ++ [q], next := k.next + 1, clock := k.clock + callTime }
        turn programs true fuel k { p with activity := next number }
      | .ask call next =>
        match serve k p call with
        | some (answer, p, k) => turn programs true fuel { k with clock := k.clock + callTime } { p with activity := next answer }
        | none =>
          (.waits p (match call with
            | .sleep time => some time
            | _ => none) moved, k)

/-- How many calls a turn has at most. -/
def turnLength : Nat := 2000

/-- Has any program this end of a pipe? -/
def anyHolds (k : Kernel) (source : Source) : Bool :=
  k.processes.any fun q => q.descriptors.any fun d => (k.descriptions.lookup d.2).any fun x => x.source = source

/-- Lets the programs take turns until the first one has ended and nobody writes to its outputs any more.  `idle` is
how many turns have passed without anything done, and `wakes` the first time at which one of those who wait wakes. -/
def run (programs : Image → Work Nat) (main : Nat) (outputs : List Nat) : (fuel : Nat) → (idle : Nat) → (wakes : Option Nat) → Kernel → Kernel
  | 0, _, _, k => k
  | fuel + 1, idle, wakes, k =>
    match k.processes with
    | [] => k
    | p :: rest =>
      if !(k.processes.any (·.number = main)) && !(outputs.any fun x => k.anyHolds (.writeEnd x)) then k
      else if idle ≥ k.processes.length then
        match wakes with
        | none => k
        | some time => run programs main outputs fuel 0 none { k with clock := max k.clock time }
      else
        match turn programs false turnLength { k with processes := rest } p with
        | (.ended, k) => run programs main outputs fuel 0 none k
        | (.goesOn p, k) => run programs main outputs fuel 0 none { k with processes := k.processes ++ [p] }
        | (.waits q time moved, k) =>
          let k := { k with processes := k.processes ++ [q] }
          if moved then run programs main outputs fuel 1 time k
          else
            let sooner := match wakes, time with
              | some a, some b => some (min a b)
              | a, b => a.or b
            run programs main outputs fuel (idle + 1) sooner k

/-- How long the programs may take turns. -/
def patience : Nat := 200000

end Kernel

/-- What a program has left behind. -/
structure Outcome where
  ending : Ending
  output : Octets
  errors : Octets

/-- Runs a program on a disk, in a directory of it, with an empty input, and collects its outputs. -/
def runProgram (programs : Image → Work Nat) (disk : Disk) (place clock : Nat) (image : Image) : Outcome :=
  let nothing := ((disk.find Disk.root (ascii "/dev/null")).toOption).getD Disk.root
  let void : Description := { source := .node nothing, reads := true, writes := false }
  let sink (pipe : Nat) : Description := { source := .writeEnd pipe, reads := false, writes := true }
  let main := 4242
  let k : Kernel :=
    { disk
      descriptions := [(2, void), (3, sink 0), (4, sink 1)]
      pipes := [(0, { limit := none }), (1, { limit := none })]
      processes := [{ number := main, parent := 4241, activity := .become image, place,
                      descriptors := [(0, 2), (1, 3), (2, 4)] }]
      clock
      next := main + 1 }
  let k := k.run programs main [0, 1] Kernel.patience 0 none
  let collected (pipe : Nat) : Octets := ((k.pipes.lookup pipe).map Pipe.content).getD []
  { ending := ((k.ended.find? (·.number = main)).map Remains.ending).getD (.signal 9)
    output := collected 0
    errors := collected 1 }

end GrammarStudio.Machine
