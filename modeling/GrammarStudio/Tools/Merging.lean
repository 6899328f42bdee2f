import GrammarStudio.Tools.Order

/-!
# Tools for lines in order

* `uniqTool` — lines without those that are equal to the one before;
* `commTool` — lines that one or both of two files have;
* `joinTool` — lines of two files with the same field;
* `tsortTool` — names in an order that respects pairs.
-/

namespace GrammarStudio.Tools

open Machine Files

/-! ### Equal lines -/

/-- How lines are taken for equal. -/
structure Sameness where
  fields : Nat := 0
  characters : Nat := 0
  most : Option Nat := none
  folds : Bool := false

def Sameness.part (s : Sameness) (line : Octets) : Octets :=
  let o := (dropFields none s.fields line).drop s.characters
  let o := match s.most with
    | some n => o.take n
    | none => o
  if s.folds then Octets.lower o else o

def uniqTool (args : List Octets) : Tool Unit := do
  let args := args.flatMap fun a => match a with
    | '-' :: c :: rest => if (c :: rest).all Char.isDigit then [['-', 'f'], c :: rest] else [a]
    | '+' :: c :: rest => if (c :: rest).all Char.isDigit then [['-', 's'], c :: rest] else [a]
    | a => [a]
  let (given, operands) ← options
    ["c|count", "d|repeated", "D", "all-repeated=?", "f|skip-fields=", "group=?", "i|ignore-case", "s|skip-chars=", "u|unique",
      "z|zero-terminated", "w|check-chars="] args
  atMost 2 operands
  let number (name what : String) : Tool (Option Nat) := do
    match given.value? name with
    | none => return none
    | some o =>
      match Amount.read false o with
      | .number n => return some n
      | .tooLarge => return some largestAmount
      | .none => giveUp (o ++ ascii ": invalid number of " ++ ascii what)
  let fields ← number "f" "fields to skip"
  let characters ← number "s" "bytes to skip"
  let most ← number "w" "bytes to compare"
  let s : Sameness := { fields := fields.getD 0, characters := characters.getD 0, most, folds := given.has "i" }
  let word (name : String) (words : List String) (usual : String) : Tool String := do
    match given.value? name with
    | none | some [] => return usual
    | some o =>
      match words.filter fun w => o.isPrefixOf w.toList with
      | [w] => return w
      | _ =>
        let _ ← wordFor ("--" ++ name) (words.map fun w => ([w], 'x')) o
        return usual
  let method ← word "all-repeated" ["none", "prepend", "separate"] "none"
  let grouping ← word "group" ["prepend", "append", "separate", "both"] "separate"
  let allRepeated := given.has "D" || given.has "all-repeated"
  if allRepeated && given.has "c" then
    misused (ascii "printing all duplicated lines and repeat counts is meaningless")
  if given.has "group" && (given.has "c" || given.has "d" || allRepeated || given.has "u") then
    misused (ascii "--group is mutually exclusive with -c/-d/-D/-u")
  let ender := if given.has "z" then '\x00' else '\n'
  let input := operands.head?.getD ['-']
  match operands[1]? with
  | some path =>
    if path ≠ ['-'] then
      match ← (Work.openToWrite path : Work (Except Fault Nat)) with
      | .ok d =>
        let _ ← ask (.replace d 1)
      | .error fault => giveUp (nameAndReason path fault)
  | none => pure ()
  -- one group after the other, as soon as it is whole
  let show_ (isFirst : Bool) (group : List Octets) : Tool Bool := do
    let repeated := group.length > 1
    let one := group.head?.getD []
    if given.has "group" then
      if !isFirst && (grouping ≠ "append" && grouping ≠ "both") || (isFirst && (grouping = "prepend" || grouping = "both")) then say [ender]
      for line in group do say (line ++ [ender])
      if grouping = "append" || grouping = "both" then say [ender]
      return true
    else if allRepeated then
      if repeated && !given.has "u" then
        if method = "prepend" || (method = "separate" && !isFirst) then say [ender]
        for line in group do say (line ++ [ender])
        return true
      else return false
    else
      if (repeated && !given.has "u") || (!repeated && !given.has "d") then
        say ((if given.has "c" then Octets.padLeft 7 (Octets.ofNat group.length) ++ [' '] else []) ++ one ++ [ender])
      return true
  match ← openSource input with
  | .error fault => giveUp (nameAndReason input fault)
  | .ok source =>
    let ((last, any), fault) ← foldLines ender source.descriptor (([] : List Octets), false) fun (group, any) line => do
      let line := bare ender line
      match group with
      | [] => return (([line], any), true)
      | first :: _ =>
        if s.part first = s.part line then return ((group ++ [line], any), true)
        else
          let shown ← show_ (!any) group
          return (([line], any || shown), (← get).lost.isNone)
    if !last.isEmpty then
      let _ ← show_ (!any) last
    match fault with
    | some fault => giveUp (ascii "error reading " ++ quoted input ++ ascii ": " ++ reason fault)
    | none => return

/-! ### Two files -/

/-- Complains when operands are missing. -/
def needTwo (operands : List Octets) : Tool (Octets × Octets) := do
  match operands with
  | [] => misused (ascii "missing operand")
  | [one] => misused (ascii "missing operand after " ++ quoted one)
  | [a, b] => return (a, b)
  | _ :: _ :: extra :: _ => misused (ascii "extra operand " ++ quoted extra)

/-- Where the comparison of two files stands. -/
structure Matching where
  left : Sequel
  right : Sequel
  /-- The next line of each. -/
  a : Option Octets
  b : Option Octets
  disordered : Bool × Bool := (false, false)
  counts : Nat × Nat × Nat := (0, 0, 0)

def commTool (args : List Octets) : Tool Unit := do
  let (given, operands) ← options
    ["1", "2", "3", "z|zero-terminated", "check-order", "nocheck-order", "output-delimiter=", "total"] args
  let (first, second) ← needTwo operands
  let ender := if given.has "z" then '\x00' else '\n'
  let between := (given.value? "output-delimiter").getD ['\t']
  let open_ (name : Octets) : Tool Sequel := do
    match ← openSource name with
    | .ok s => return s
    | .error fault => giveUp (nameAndReason name fault)
  let left ← open_ first
  let right ← open_ second
  let next (s : Sequel) (name : Octets) : Tool (Option Octets × Sequel) := do
    let (line, fault, s) ← s.next ender
    checkRead name fault
    return (line.map (bare ender), s)
  let (a, left) ← next left first
  let (b, right) ← next right second
  let column (n : Nat) (line : Octets) : Octets :=
    (if n ≥ 2 && !given.has "1" then between else []) ++ (if n = 3 && !given.has "2" then between else []) ++ line ++ [ender]
  let checks (seenUnpaired : Bool) : Bool := given.has "check-order" || (!given.has "nocheck-order" && seenUnpaired)
  -- a file is told once to be out of order
  let step (before : Option Octets) (after : Option Octets) (told : Bool) (unpaired : Bool) (number : String) : Tool Bool := do
    match before, after with
    | some x, some y =>
      if !told && checks unpaired && compareOctets x y = .gt then
        complain (ascii "file " ++ ascii number ++ ascii " is not in sorted order")
        if given.has "check-order" then finish 1
        return true
      else return told
    | _, _ => return told
  let rec go : (fuel : Nat) → (unpaired : Bool) → Matching → Tool Matching
    | 0, _, m => return m
    | fuel + 1, unpaired, m => do
      let advance (left right : Bool) (unpaired : Bool) (m : Matching) : Tool Matching := do
        let mut m := m
        if left then
          let (a, s) ← next m.left first
          let told ← step m.a a m.disordered.1 unpaired "1"
          m := { m with a, left := s, disordered := (told, m.disordered.2) }
        if right then
          let (b, s) ← next m.right second
          let told ← step m.b b m.disordered.2 unpaired "2"
          m := { m with b, right := s, disordered := (m.disordered.1, told) }
        return m
      let (x, y, z) := m.counts
      let order : Option Ordering := match m.a, m.b with
        | none, none => none
        | some _, none => some .lt
        | none, some _ => some .gt
        | some a, some b => some (compareOctets a b)
      match order with
      | none => return m
      | some .lt =>
        if !given.has "1" then say (column 1 (m.a.getD []))
        go fuel true (← advance true false true { m with counts := (x + 1, y, z) })
      | some .gt =>
        if !given.has "2" then say (column 2 (m.b.getD []))
        go fuel true (← advance false true true { m with counts := (x, y + 1, z) })
      | some .eq =>
        if !given.has "3" then say (column 3 (m.a.getD []))
        go fuel unpaired (← advance true true unpaired { m with counts := (x, y, z + 1) })
  let m ← go endless false { left, right, a, b }
  if given.has "total" then
    let (x, y, z) := m.counts
    say (between.intercalate [Octets.ofNat x, Octets.ofNat y, Octets.ofNat z, ascii "total"] ++ [ender])
  if m.disordered.1 || m.disordered.2 then
    complain (ascii "input is not in sorted order")
    setStatus 1

/-- A field of a line of an output: of both files, or of one of them. -/
inductive OutputField where
  | key
  | own (file field : Nat)

/-- How lines are joined. -/
structure Joining where
  fields : Nat × Nat
  separator : Option Char
  folds : Bool
  empty : Octets
  unpaired : Bool × Bool
  paired : Bool
  output : Option (List OutputField)

def Joining.split (j : Joining) (line : Octets) : List Octets :=
  match j.separator with
  | some c => Octets.splitOn c line
  | none => Octets.fieldsBy (fun c => c = ' ' || c = '\t' || c = '\n') line

def Joining.key (j : Joining) (second : Bool) (fields : List Octets) : Octets :=
  let o := (fields[(if second then j.fields.2 else j.fields.1) - 1]?).getD []
  if j.folds then Octets.upper o else o

/-- A line of the output, from a line of one file or both. -/
def Joining.line (j : Joining) (a b : Option (List Octets)) : Octets :=
  let shown (o : Option Octets) : Octets := match o with
    | some (c :: o) => c :: o
    | _ => j.empty
  let key := match a, b with
    | some a, _ => a[j.fields.1 - 1]?
    | none, some b => b[j.fields.2 - 1]?
    | none, none => none
  let others (field : Nat) (fields : List Octets) : List Octets :=
    (((List.range fields.length).zip fields).filter fun x => x.1 ≠ field - 1).map fun x => shown (some x.2)
  let between := [j.separator.getD ' ']
  between.intercalate (match j.output with
    | some fields => fields.map fun f => match f with
      | .key => shown key
      | .own 1 n => shown (a.bind fun a => a[n - 1]?)
      | .own _ n => shown (b.bind fun b => b[n - 1]?)
    | none => shown key :: ((a.map (others j.fields.1)).getD [] ++ (b.map (others j.fields.2)).getD []))

/-- Lines with the same key, in front of others. -/
def sameKey (key : List Octets → Octets) : List (List Octets) → List (List Octets) × List (List Octets)
  | [] => ([], [])
  | x :: rest => ((x :: rest).takeWhile fun y => key y = key x, (x :: rest).dropWhile fun y => key y = key x)

def joinLines (j : Joining) : (fuel : Nat) → List (List Octets) → List (List Octets) → List Octets
  | 0, _, _ => []
  | fuel + 1, as, bs =>
    match as, bs with
    | [], bs => if j.unpaired.2 then bs.map fun b => j.line none (some b) else []
    | as, [] => if j.unpaired.1 then as.map fun a => j.line (some a) none else []
    | a :: as, b :: bs =>
      match compareOctets (j.key false a) (j.key true b) with
      | .lt => (if j.unpaired.1 then [j.line (some a) none] else []) ++ joinLines j fuel as (b :: bs)
      | .gt => (if j.unpaired.2 then [j.line none (some b)] else []) ++ joinLines j fuel (a :: as) bs
      | .eq =>
        let (xs, as) := sameKey (j.key false) (a :: as)
        let (ys, bs) := sameKey (j.key true) (b :: bs)
        (if j.paired then xs.flatMap fun x => ys.map fun y => j.line (some x) (some y) else []) ++ joinLines j fuel as bs

def joinTool (args : List Octets) : Tool Unit := do
  let (given, operands) ← options
    ["1=", "2=", "j=", "a=", "v=", "e=", "i|ignore-case", "o=", "t=", "check-order", "nocheck-order", "z|zero-terminated", "header"] args
  let (first, second) ← needTwo operands
  let field (name : String) : Tool (Option Nat) := do
    match given.value? name with
    | none => return none
    | some o =>
      match Octets.nat? o with
      | some (n + 1) => return some (n + 1)
      | _ => giveUp (ascii "invalid field number: " ++ quoted o)
  let both ← field "j"
  let one ← field "1"
  let two ← field "2"
  let separator ← (match given.value? "t" with
    | none => pure none
    | some [] => pure (some '\n')
    | some [c] => pure (some c)
    | some ['\\', '0'] => pure (some '\x00')
    | some o => giveUp (ascii "multi-character tab " ++ quoted o) : Tool (Option Char))
  let sides (name : String) : Tool (Bool × Bool) := do
    let os := (given.filter (·.1 = name)).map Prod.snd
    match os.find? fun o => o ≠ ['1'] && o ≠ ['2'] with
    | some o => giveUp (ascii "invalid file number: " ++ quoted o)
    | none => return (os.contains ['1'], os.contains ['2'])
  let a ← sides "a"
  let v ← sides "v"
  let output ← (match given.value? "o" with
    | none => pure none
    | some list => do
      if list = ascii "auto" then return none
      let mut fields : List OutputField := []
      for o in Octets.fieldsBy (fun c => c = ',' || c = ' ' || c = '\t') list do
        match o with
        | ['0'] => fields := fields ++ [.key]
        | file :: '.' :: digits =>
          if file ≠ '1' && file ≠ '2' then giveUp (ascii "invalid file number in field spec: " ++ quoted o)
          match Octets.nat? digits with
          | some (n + 1) => fields := fields ++ [.own (file.toNat - 48) (n + 1)]
          | _ => giveUp (ascii "invalid field number: " ++ quoted digits)
        | _ => giveUp (ascii "invalid field specifier: " ++ quoted o)
      return some fields : Tool (Option (List OutputField)))
  let j : Joining :=
    { fields := ((one.or both).getD 1, (two.or both).getD 1), separator, folds := given.has "i"
      empty := (given.value? "e").getD [], unpaired := (a.1 || v.1, a.2 || v.2), paired := !(v.1 || v.2), output }
  let ender := if given.has "z" then '\x00' else '\n'
  let read (name : Octets) : Tool (List Octets) := do
    match ← openSource name with
    | .error fault => giveUp (nameAndReason name fault)
    | .ok s =>
      match ← content s.descriptor with
      | .error fault => giveUp (nameAndReason name fault)
      | .ok o =>
        let (lines, rest) := cutLines ender o
        return (if rest.isEmpty then lines else lines ++ [rest]).map (bare ender)
  let as ← read first
  let bs ← read second
  let disorder (second : Bool) (lines : List Octets) : Option (Nat × Octets) :=
    (((List.range lines.length).zip (lines.zip lines.tail)).find? fun (_, x, y) =>
      compareOctets (j.key second (j.split x)) (j.key second (j.split y)) = .gt).map fun (n, _, y) => (n + 2, y)
  for line in joinLines j (as.length + bs.length + 2) (as.map j.split) (bs.map j.split) do
    say (line ++ [ender])
  let mut told := false
  for (second, name, lines) in [(false, first, as), (true, second, bs)] do
    match disorder second lines with
    | some (n, line) =>
      if !given.has "nocheck-order" && !(as.isEmpty || bs.isEmpty) then
        complain (name ++ ':' :: Octets.ofNat n ++ ascii ": is not sorted: " ++ line)
        told := true
    | none => pure ()
  if told then
    complain (ascii "input is not in sorted order")
    setStatus 1

/-! ### An order that respects pairs -/

def tsortTool (args : List Octets) : Tool Unit := do
  let (_, operands) ← options [] args
  atMost 1 operands
  let name := operands.head?.getD ['-']
  match ← (if name = ['-'] then content 0 else (Work.slurp name : Work (Except Fault Octets)) : Tool (Except Fault Octets)) with
  | .error fault => giveUp (nameAndReason name fault)
  | .ok o =>
    let words := Octets.words o
    if words.length % 2 = 1 then giveUp (nameShown name ++ ascii ": input contains an odd number of tokens")
    let rec pairs : List Octets → List (Octets × Octets)
      | a :: b :: rest => (a, b) :: pairs rest
      | _ => []
    let edges := (pairs words).filter fun e => e.1 ≠ e.2
    let nodes := (words.eraseDups).mergeSort fun a b => compareOctets a b ≠ .gt
    -- names wait in a line until all that comes before them is told
    let rec go : (fuel : Nat) → (ready left : List Octets) → List (Octets × Octets) → Tool Unit
      | 0, _, _, _ => return
      | fuel + 1, ready, left, edges => do
        match ready with
        | [] =>
          match left with
          | [] => return
          | first :: others =>
            failing (nameShown name ++ ascii ": input contains a loop:")
            mutter ((← get).name ++ ascii ": " ++ first ++ ['\n'])
            go fuel [first] others (edges.filter fun e => e.2 ≠ first)
        | x :: ready =>
          say (x ++ ['\n'])
          let after := (edges.filter fun e => e.1 = x).reverse.map Prod.snd
          let edges := edges.filter fun e => e.1 ≠ x
          let free := (after.eraseDups).filter fun y => !(edges.any fun e => e.2 = y) && left.contains y
          go fuel (ready ++ free) (left.filter (!free.contains ·)) edges
    let free := nodes.filter fun x => !(edges.any fun e => e.2 = x)
    go (2 * nodes.length + 2) free (nodes.filter (!free.contains ·)) edges

end GrammarStudio.Tools
