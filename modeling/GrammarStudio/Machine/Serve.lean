import GrammarStudio.Machine.Kernel

/-!
# The answers of a machine

* `serve` — the answer to one call, unless the program has to wait for it.
-/

namespace GrammarStudio.Machine

open Files Kernel

/-- Reads from what a descriptor stands for. -/
def serveRead (k : Kernel) (p : Process) (descriptor count : Nat) : Option (Except Fault Octets × Process × Kernel) :=
  match k.description? p descriptor with
  | none => some (.error (.system 9), p, k)
  | some (id, d) =>
    if !d.reads then some (.error (.system 9), p, k)
    else
      match d.source with
      | .node n =>
        match k.readNode n d.offset count with
        | .error fault => some (.error fault, p, k)
        | .ok o => some (.ok o, p, k.changeDescription id fun d => { d with offset := d.offset + o.length })
      | .readEnd pipe | .writeEnd pipe =>
        match k.pipes.lookup pipe with
        | none => some (.ok [], p, k)
        | some x =>
          if x.size > 0 then
            let (o, x) := x.take count
            some (.ok o, p, k.changePipe pipe fun _ => x)
          else if k.isHeld p (.writeEnd pipe) then
            if p.caught.isEmpty then none else some (.error (.system 4), p, k)
          else some (.ok [], p, k)

/-- Writes to what a descriptor stands for.  A pipe that nobody reads any more ends the program. -/
def serveWrite (k : Kernel) (p : Process) (descriptor : Nat) (data : Octets) :
    Option (Except Fault Unit × Process × Kernel) :=
  match k.description? p descriptor with
  | none => some (.error (.system 9), p, k)
  | some (id, d) =>
    if !d.writes then some (.error (.system 9), p, k)
    else
      match d.source with
      | .node n =>
        match k.disk.content? n with
        | some (.file bytes) =>
          let offset := if d.appends then bytes.size else d.offset
          let disk := k.disk.rewrite n k.clock fun bytes => overwrite bytes offset (Octets.bytes data)
          some (.ok (), p, { k with disk }.changeDescription id fun d => { d with offset := offset + data.length })
        | some .full => some (.error (.system 28), p, k)
        | _ => some (.ok (), p, k)
      | .writeEnd pipe | .readEnd pipe =>
        match k.pipes.lookup pipe with
        | none => some (.error (.system 32), p, k)
        | some x =>
          match x.limit with
          | none => some (.ok (), p, k.changePipe pipe fun x => x.put data)
          | some limit =>
            if !k.isHeld p (.readEnd pipe) then some (.error (.system 32), signalled p 13, k)
            else if x.size ≥ limit then none
            else some (.ok (), p, k.changePipe pipe fun x => x.put data)

/-- Asks for the end of other programs. -/
def serveWait (k : Kernel) (p : Process) (who : Option Nat) (hangs interruptible : Bool) :
    Option (Waited × Process × Kernel) :=
  let fits (number : Nat) : Bool := match who with
    | some n => n = number
    | none => true
  match k.ended.find? fun r => r.parent = p.number && fits r.number with
  | some r => some (.ended r.number r.ending, p, { k with ended := k.ended.filter (·.number ≠ r.number) })
  | none =>
    if !(k.processes.any fun q => q.parent = p.number && fits q.number) then some (.nobody, p, k)
    else if !hangs then some (.notYet, p, k)
    else if interruptible && !p.caught.isEmpty then some (.interrupted, p, k)
    else none

/-- Sends a signal. -/
def serveKill (k : Kernel) (p : Process) (number signal : Nat) : Except Fault Unit × Process × Kernel :=
  if signal > lastSignal then (.error (.system 22), p, k)
  else if number = p.number then (.ok (), signalled p signal, k)
  else if k.processes.any (·.number = number) then
    (.ok (), p, { k with processes := k.processes.map fun q => if q.number = number then signalled q signal else q })
  else if k.ended.any (·.number = number) then (.ok (), p, k)
  else (.error (.system 3), p, k)

/-- The answer to a call, unless the program has to wait for it. -/
def serve (k : Kernel) (p : Process) : (c : Call) → Option (c.Answer × Process × Kernel)
  | .openFile path how mode => k.openPath p path how mode
  | .close n =>
    if (p.descriptors.lookup n).isSome then
      let p := { p with descriptors := p.descriptors.filter (·.1 ≠ n) }
      some (.ok (), p, k.tidy p)
    else some (.error (.system 9), p, k)
  | .read n count => serveRead k p n count
  | .write n data => serveWrite k p n data
  | .seek n whence offset =>
    some <| match k.description? p n with
    | none => (.error (.system 9), p, k)
    | some (id, d) =>
      match d.source with
      | .node node =>
        let base : Int := match whence with
          | .start => 0
          | .current => d.offset
          | .finish => k.disk.size node
        if base + offset < 0 then (.error (.system 22), p, k)
        else
          let target := (base + offset).toNat
          (.ok target, p, k.changeDescription id fun d => { d with offset := target })
      | _ => (.error (.system 29), p, k)
  | .duplicate n least =>
    some <| match p.descriptors.lookup n with
    | none => (.error (.system 9), p, k)
    | some id =>
      let new := freeNumber p 1024 least
      (.ok new, { p with descriptors := (new, id) :: p.descriptors }, k)
  | .replace n target =>
    some <| match p.descriptors.lookup n with
    | none => (.error (.system 9), p, k)
    | some id =>
      if n = target then (.ok (), p, k)
      else
        let p := { p with descriptors := (target, id) :: p.descriptors.filter (·.1 ≠ target) }
        (.ok (), p, k.tidy p)
  | .makePipe =>
    let pipe := k.next
    let k := { k with pipes := (pipe, {}) :: k.pipes, next := k.next + 1 }
    let (a, p, k) := k.install p { source := .readEnd pipe, reads := true, writes := false }
    let (b, p, k) := k.install p { source := .writeEnd pipe, reads := false, writes := true }
    some ((a, b), p, k)
  | .wait who hangs interruptible => serveWait k p who hangs interruptible
  | .kill number signal => some (serveKill k p number signal)
  | .killGroup signal =>
    let get (q : Process) : Process := if q.group = p.group then signalled q signal else q
    some ((), get p, { k with processes := k.processes.map get })
  | .newGroup => some ((), { p with group := p.number }, k)
  | .giveWay more =>
    let niceness := max (-20) (min 19 (p.niceness + more))
    some (niceness, { p with niceness }, k)
  | .respond signal response =>
    some ((), { p with responses := (signal, response) :: p.responses.filter (·.1 ≠ signal) }, k)
  | .responseTo signal => some ((p.responses.lookup signal).getD .usual, p, k)
  | .caught => some (p.caught, { p with caught := [] }, k)
  | .self => some ((p.number, p.parent), p, k)
  | .enter path =>
    some <| match k.disk.find p.place path with
    | .error fault => (.error fault, p, k)
    | .ok n => if k.disk.isDirectory n then (.ok (), { p with place := n }, k) else (.error .notADirectory, p, k)
  | .here =>
    let path := k.disk.pathOf 1000 p.place
    some (if path.isEmpty then ['/'] else path, p, k)
  | .mask new => some (p.mask, { p with mask := new.getD p.mask }, k)
  | .inspect path follows =>
    some <| match k.disk.find p.place path follows with
    | .error fault => (.error fault, p, k)
    | .ok n =>
      match k.disk.content? n with
      | some (.opened descriptor) =>
        match k.description? p descriptor with
        | none => (.error .notFound, p, k)
        | some (_, d) =>
          match d.source with
          | .node m => (.ok (info k.disk m), p, k)
          | _ => (.ok { info k.disk n with kind := .fifo }, p, k)
      | _ => (.ok (info k.disk n), p, k)
  | .describe n =>
    some <| match k.description? p n with
    | none => (.error (.system 9), p, k)
    | some (_, d) =>
      match d.source with
      | .node m => (.ok (info k.disk m), p, k)
      | .readEnd x | .writeEnd x => (.ok ⟨1000000 + x, .fifo, 0o600, 0, 1, k.clock⟩, p, k)
  | .makeDirectory path mode => some (changed (k.disk.makeDirectory p.place path (mode - (mode &&& p.mask)) k.clock))
  | .removeDirectory path => some (changed (k.disk.removeDirectory p.place path k.clock))
  | .remove path => some (changed (k.disk.remove p.place path k.clock))
  | .rename old new => some (changed (k.disk.rename p.place old new k.clock))
  | .nameToo old new => some (changed (k.disk.nameToo p.place old new k.clock))
  | .makeLink target path => some (changed (k.disk.makeLink p.place target path k.clock))
  | .target path =>
    some <| match k.disk.find p.place path false with
    | .error fault => (.error fault, p, k)
    | .ok n =>
      match k.disk.content? n with
      | some (.link target) => (.ok target, p, k)
      | _ => (.error (.system 22), p, k)
  | .list path =>
    some <| match k.disk.find p.place path with
    | .error fault => (.error fault, p, k)
    | .ok n =>
      match k.disk.entries? n with
      | some entries => (.ok (entries.map Prod.fst), p, k)
      | none => (.error .notADirectory, p, k)
  | .setMode path mode =>
    some (changed do .ok (k.disk.change (← k.disk.find p.place path) fun n => { n with mode }))
  | .setTime path time =>
    some (changed do .ok (k.disk.change (← k.disk.find p.place path) fun n => { n with modified := time }))
  | .resize n size =>
    some <| match k.description? p n with
    | some (_, ⟨.node m, _, true, _, _⟩) =>
      (.ok (), p, { k with disk := k.disk.rewrite m k.clock fun bytes =>
        if size ≤ bytes.size then bytes.extract 0 size else overwrite bytes size .empty })
    | _ => (.error (.system 22), p, k)
  | .makeFifo path mode =>
    some <| match k.disk.create p.place path (.fifo k.next) (mode - (mode &&& p.mask)) k.clock with
    | .error fault => (.error fault, p, k)
    | .ok (disk, _) => (.ok (), p, { k with disk, pipes := (k.next, {}) :: k.pipes, next := k.next + 1 })
  | .findRunnable path =>
    some <| match k.disk.find p.place path with
    | .error fault => (.error fault, p, k)
    | .ok n =>
      match k.disk.at? n with
      | some ⟨.program name, _, _, _⟩ => (.ok (.program name), p, k)
      | some ⟨.file bytes, mode, _, _⟩ =>
        if mode &&& 0o111 = 0 then (.error .permissionDenied, p, k) else (.ok (.script (Octets.ofBytes bytes)), p, k)
      | _ => (.error .permissionDenied, p, k)
  | .now => some (k.clock, p, k)
  | .sleep time =>
    if time ≤ k.clock then some (true, p, k)
    else if p.caught.isEmpty then none
    else some (false, p, k)
  | .pause => some ((), p, k)
  | .fresh => some (k.next, p, { k with next := k.next + 1 })
where
  changed (result : Except Fault Disk) : Except Fault Unit × Process × Kernel :=
    match result with
    | .ok disk => (.ok (), p, { k with disk })
    | .error fault => (.error fault, p, k)

end GrammarStudio.Machine
