import GrammarStudio.Proofs.Window.Gutter

/-!
# Numbers that fit

Rows and columns are counted in words of 64 bits, and nothing looks whether they fit.  A place that an error names is at
least one and less than 2^63.  A place in a text is no further than the text has bytes, and there are fewer than 2^63 of
these.  So one can be taken off every place that is received, and one can be added to every cursor.

* `Position.Below`, `below_positionAt` — a bound for both numbers, and that of the positions of a text;
* `Entry.Exact` — nothing is lost when an error becomes a row of a list;
* `Buffer.Placed`, `Change.placed_apply` — the invariant of a cursor, and the changes that keep it;
* `Session.Hosts`, `Session.Hosted` — what a host does, and histories of nothing else, whose texts are short;
* `Session.Anchored` — the invariant of a session, with `Anchored.step` and `anchored_play`;
* `Window.anchored_drawArea`, `Window.anchored_draw` — and of a window, whatever is done in it;
* `Session.Fits`, `Window.positions_fit` — in every state that is reached all numbers fit.
-/

namespace GrammarStudio

open Analysis Diagnostics Editor Text Window

/-! ### Positions -/

namespace Text

/-- With each character a row or a column grows by one at most. -/
theorem positionAfter_le (p : Position) (text : List Char) :
    (positionAfter p text).row ≤ p.row + text.length ∧ (positionAfter p text).col ≤ p.col + text.length := by
  induction text generalizing p with
  | nil => exact ⟨Nat.le_refl _, Nat.le_refl _⟩
  | cons c rest ih =>
    rw [positionAfter, List.length_cons]
    by_cases hc : c = '\n'
    · obtain ⟨hrow, hcol⟩ := ih ⟨p.row + 1, 0⟩
      dsimp only at hrow hcol
      rw [if_pos hc]
      exact ⟨by omega, by omega⟩
    · obtain ⟨hrow, hcol⟩ := ih ⟨p.row, p.col + 1⟩
      dsimp only at hrow hcol
      rw [if_neg hc]
      exact ⟨by omega, by omega⟩

/-- Each character has a byte at least. -/
theorem length_le_utf8ByteSize (chars : List Char) : chars.length ≤ (String.ofList chars).utf8ByteSize := by
  induction chars with
  | nil => exact Nat.zero_le _
  | cons c rest ih =>
    have hc : 0 < c.utf8Size := c.utf8Size_pos
    rw [Position.utf8ByteSize_cons, List.length_cons]
    omega

end Text

/-- Row and column are less than a bound. -/
def Position.Below (bound : Nat) (p : Position) : Prop := p.row < bound ∧ p.col < bound

theorem Position.Below.mono {bound more : Nat} {p : Position} (h : p.Below bound) (hle : bound ≤ more) : p.Below more :=
  ⟨Nat.lt_of_lt_of_le h.1 hle, Nat.lt_of_lt_of_le h.2 hle⟩

/-- **The positions of a text are not further than its length in bytes.** -/
theorem Text.below_positionAt (text : String) (i : Nat) :
    (positionAt text.toList i).Below (text.utf8ByteSize + 1) := by
  obtain ⟨hrow, hcol⟩ := positionAfter_le ⟨0, 0⟩ (text.toList.take i)
  dsimp only at hrow hcol
  have htake : (text.toList.take i).length ≤ text.toList.length := List.length_take_le' i text.toList
  have hbytes : text.toList.length ≤ text.utf8ByteSize := by
    have hchars := length_le_utf8ByteSize text.toList
    rwa [String.ofList_toList] at hchars
  exact ⟨by rw [positionAt]; omega, by rw [positionAt]; omega⟩

/-- Nor are its rows. -/
theorem Text.rowAt_lt (text : String) (i : Nat) : rowAt text.toList i < text.utf8ByteSize + 1 := by
  rw [rowAt_eq]
  exact (below_positionAt text i).1

/-! ### Errors -/

/-- **Nothing is lost when an error becomes a row of a list.**  Its numbers count from one, and those of the row, which
count from zero, are one less. -/
structure Analysis.Entry.Exact (e : Entry) : Prop where
  line : 1 ≤ e.location.line ∧ (ErrorItem.ofEntry e).target.row + 1 = e.location.line
  col : 1 ≤ e.location.col ∧ (ErrorItem.ofEntry e).target.col + 1 = e.location.col
  origin : ∀ l, e.origin = some l → 1 ≤ l.line ∧ 1 ≤ l.col ∧
    ∃ p, (ErrorItem.ofEntry e).originTarget = some p ∧ p.row + 1 = l.line ∧ p.col + 1 = l.col

theorem Analysis.Entry.InRange.exact {e : Entry} (h : e.InRange) : e.Exact where
  line := ⟨h.1.1.1, (target_add_one h.1).1⟩
  col := ⟨h.1.2.1, (target_add_one h.1).2⟩
  origin := by
    intro l hl
    have hrange : l.InRange := h.2 l hl
    refine ⟨hrange.1.1, hrange.2.1, target l, ?_, target_add_one hrange⟩
    rw [originTarget_ofEntry, hl]
    rfl

/-- The place of an error was read as a signed word. -/
theorem Diagnostics.below_target {l : Location} (h : l.InRange) : (target l).Below (2 ^ 63) := by
  obtain ⟨⟨-, -, hline⟩, -, -, hcol⟩ := h
  simp only [Json.maxInt] at hline hcol
  exact ⟨Nat.lt_of_le_of_lt (Nat.sub_le l.line 1) (by omega), Nat.lt_of_le_of_lt (Nat.sub_le l.col 1) (by omega)⟩

/-! ### Cursors -/

namespace Editor

/-- The bound of a buffer's cursor: it is in range, or not further than the text has bytes. -/
def Buffer.reach (b : Buffer) : Nat := max (2 ^ 63) (b.text.utf8ByteSize + 1)

/-- **The cursor invariant.**  It speaks of the text that is there now, so nothing has to be known of earlier ones. -/
def Buffer.Placed (b : Buffer) : Prop := b.cursor.Below b.reach

theorem Buffer.reach_of_short {b : Buffer} (h : b.text.utf8ByteSize < 2 ^ 63) : b.reach = 2 ^ 63 := Nat.max_eq_left h

/-- In a short text the cursor is in range. -/
theorem Buffer.Placed.below {b : Buffer} (h : b.Placed) (hshort : b.text.utf8ByteSize < 2 ^ 63) :
    b.cursor.Below (2 ^ 63) := by
  have hcursor : b.cursor.Below b.reach := h
  rwa [reach_of_short hshort] at hcursor

theorem Buffer.placed_of_below {b : Buffer} (h : b.cursor.Below (2 ^ 63)) : b.Placed := h.mono (Nat.le_max_left _ _)

/-- A cursor is placed where it stands at an index of the text. -/
theorem Buffer.placed_of_index {b : Buffer} {i : Nat} (h : b.cursor = positionAt b.text.toList i) : b.Placed := by
  show b.cursor.Below b.reach
  rw [h]
  exact (below_positionAt b.text i).mono (Nat.le_max_right _ _)

theorem Buffer.placed_syncCursor (b : Buffer) (i : Nat) : (b.syncCursor i).Placed := placed_of_index rfl

theorem Buffer.placed_insert (b : Buffer) (t : String) : (b.insert t).Placed :=
  placed_of_index (i := b.cursorIndex + t.toList.length) (by rw [insert, String.toList_ofList])

/-- **The changes that keep a cursor placed** are all but two.  A move has to lead to a position that is placed itself,
and when the host changes the text behind the cursor's back, the text before has to be short. -/
theorem Change.placed_apply {c : Change} {b : Buffer} (h : b.Placed) (hmove : ∀ p, c = .moveTo p → p.Below b.reach)
    (htyped : ∀ text, c = .typed text → b.text.utf8ByteSize < 2 ^ 63) : (c.apply b).Placed := by
  cases c with
  | setText text => exact Buffer.placed_of_below ⟨Nat.two_pow_pos 63, Nat.two_pow_pos 63⟩
  | insert text => exact b.placed_insert text
  | typed text => exact Buffer.placed_of_below (h.below (htyped text rfl))
  | moveTo p => exact hmove p rfl
  | syncCursor i => exact b.placed_syncCursor i
  | scrollTo | requestFocus | requestLayout | takeRequests => exact h

/-- All cursors of a desk are placed. -/
def Desk.Placed (desk : Desk) : Prop := ∀ slot, (desk.get slot).Placed

theorem Desk.Placed.update {desk : Desk} (h : desk.Placed) {slot : Slot} {f : Buffer → Buffer}
    (hslot : (f (desk.get slot)).Placed) : (desk.update slot f).Placed := by
  intro other
  by_cases heq : other = slot
  · subst heq
    rw [get_update_self]
    exact hslot
  · rw [get_update_of_ne desk f heq]
    exact h other

theorem Desk.Placed.foldl {β : Type} {f : Desk → β → Desk} (hstep : ∀ desk b, desk.Placed → (f desk b).Placed)
    {desk : Desk} (h : desk.Placed) (l : List β) : (l.foldl f desk).Placed := by
  induction l generalizing desk with
  | nil => exact h
  | cons b rest ih => exact ih (hstep desk b h)

/-- To measure text areas again moves no cursor. -/
theorem Desk.Placed.relayout {desk : Desk} (h : desk.Placed) (shown : Panels) :
    (Session.relayout shown desk).Placed :=
  Desk.Placed.foldl (fun _ slot hdesk => hdesk.update (hdesk slot)) h _

/-- A click on an error moves cursors to its places. -/
theorem Desk.Placed.clicked {desk : Desk} (h : desk.Placed) {e : Entry} (he : e.InRange) (list : Document) :
    (Diagnostics.clicked desk list (.ofEntry e)).Placed := by
  have hself : (desk.update (.document list) fun b => (b.revealed (ErrorItem.ofEntry e).target).requestFocus).Placed :=
    h.update (Buffer.placed_of_below (below_target he.1))
  unfold Diagnostics.clicked
  cases list with
  | grammar => exact hself
  | code =>
    cases horigin : e.origin with
    | none =>
      rw [originTarget_ofEntry, horigin]
      exact hself
    | some l =>
      rw [originTarget_ofEntry, horigin]
      exact hself.update (Buffer.placed_of_below (below_target (he.2 l horigin)))

end Editor

/-- A click in a gutter leads to a marker or to the start of a line. -/
theorem Window.below_landing {markers : List Marker} {bound row : Nat} (hmarkers : ∀ m ∈ markers, m.target.Below bound)
    (hrow : row < bound) (onDot : Bool) : (landing markers row onDot).Below bound := by
  unfold landing
  split
  case h_1 m hm =>
    split at hm
    · exact hmarkers m (List.mem_of_find?_eq_some hm)
    · cases hm
  case h_2 => exact ⟨hrow, Nat.lt_of_le_of_lt (Nat.zero_le row) hrow⟩

/-! ### Sessions -/

namespace Session

variable {σ τ : Type}

/-- The texts of all text areas are shorter than 2^63 bytes. -/
def Short (s : Session σ τ) : Prop := ∀ slot, (s.desk.get slot).text.utf8ByteSize < 2 ^ 63

theorem short_iff {s : Session σ τ} : s.Short ↔ s.desk.grammar.text.utf8ByteSize < 2 ^ 63 ∧
    s.desk.code.text.utf8ByteSize < 2 ^ 63 ∧ ∀ p ∈ Panel.all, (s.desk.get (.panel p)).text.utf8ByteSize < 2 ^ 63 := by
  constructor
  · intro h
    exact ⟨h .grammar, h .code, fun p _ => h (.panel p)⟩
  · rintro ⟨hgrammar, hcode, hpanels⟩ slot
    rcases slot with (_ | _) | p
    · exact hgrammar
    · exact hcode
    · exact hpanels p (by cases p <;> simp [Panel.all])

instance (s : Session σ τ) : Decidable s.Short := decidable_of_iff _ short_iff.symm

/-- **What a host does.**  It moves a cursor only when a gutter is clicked, on the line of some character: all other
moves come from the session.  It may do everything else at any time. -/
def Hosts (s : Session σ τ) : Event τ → Prop
  | .change slot (.moveTo p) =>
    ∃ i onDot, p = landing (markers s slot) (rowAt (s.desk.get slot).text.toList i) onDot
  | _ => True

/-- **The invariant of a session**: the view has its places, and the cursors are placed. -/
structure Anchored (s : Session σ τ) : Prop where
  located : s.Located
  placed : s.desk.Placed

section Anchored

variable {s : Session σ τ}

/-- The rows on view are those of errors whose numbers count from one and fit. -/
theorem Located.item (h : s.Located) {d : Document} {item : ErrorItem} (hitem : item ∈ s.view.items d) :
    ∃ e ∈ s.outcome.errors d, item = .ofEntry e ∧ e.InRange := by
  rw [h.view, View.items_ofOutcome] at hitem
  obtain ⟨e, he, rfl⟩ := List.mem_map.mp hitem
  exact ⟨e, he, rfl, h.inRange.entry he⟩

theorem Located.marker (h : s.Located) {slot : Slot} {m : Marker} (hm : m ∈ markers s slot) :
    m.target.Below (2 ^ 63) := by
  cases slot with
  | panel p => cases hm
  | document d =>
    obtain ⟨item, hitem, rfl⟩ := List.mem_map.mp hm
    obtain ⟨e, -, rfl, he⟩ := h.item hitem
    exact below_target he.1

/-- A click in the gutter of a text area leads to a position that is placed. -/
theorem Located.landing (h : s.Located) (slot : Slot) (i : Nat) (onDot : Bool) :
    (landing (markers s slot) (rowAt (s.desk.get slot).text.toList i) onDot).Below (s.desk.get slot).reach :=
  below_landing (fun _ hm => (h.marker hm).mono (Nat.le_max_left _ _))
    (Nat.lt_of_lt_of_le (rowAt_lt _ i) (Nat.le_max_right _ _)) onDot

/-- Each panel is emptied and filled again. -/
theorem placed_applyOutcome (h : s.desk.Placed) (o : Outcome) : (s.applyOutcome o).desk.Placed := by
  refine Desk.Placed.foldl (fun desk p hdesk => ?_) h Panel.all
  refine hdesk.update ?_
  exact Buffer.placed_insert _ _

theorem placed_begin (h : s.desk.Placed) : s.begin.desk.Placed := by
  unfold Session.begin
  split
  · exact placed_applyOutcome h _
  · split <;> exact h

theorem placed_refresh (h : s.desk.Placed) : s.refresh.desk.Placed := by
  unfold Session.refresh
  split
  · exact placed_begin h
  · exact h

theorem placed_dispatch [Wording] (h : s.desk.Placed) (engine : Engine) : (s.dispatch engine).desk.Placed := by
  unfold Session.dispatch
  split
  · exact placed_applyOutcome h _
  all_goals exact h

theorem placed_errorClicked (h : s.Anchored) (list : Document) (index : Nat) :
    (s.errorClicked list index).desk.Placed := by
  rw [errorClicked_eq]
  cases hrow : (s.view.items list)[index]? with
  | none => exact h.placed
  | some item =>
    obtain ⟨e, -, rfl, he⟩ := h.located.item (List.mem_of_getElem? hrow)
    exact h.placed.clicked he list

variable [Store σ] [Clock τ]

theorem placed_tick [Wording] (h : s.desk.Placed) (engine : Engine) (now : τ) : (s.tick engine now).desk.Placed := by
  cases hc : (s.commit.poll now).1 with
  | none =>
    rw [tick_quiet engine hc]
    exact placed_dispatch h engine
  | some action =>
    rw [tick_due engine (by rw [hc]; rfl)]
    exact placed_refresh (s := s.saved engine now) (placed_dispatch h engine)

/-- **Whatever a host does to short texts leaves all cursors placed.** -/
theorem Anchored.step [Wording] (h : s.Anchored) (engine : Engine) {e : Event τ} (hosts : s.Hosts e)
    (short : ∀ slot text, e = .change slot (.typed text) → (s.desk.get slot).text.utf8ByteSize < 2 ^ 63) :
    (s.step engine e).Anchored := by
  refine ⟨h.located.step engine e, ?_⟩
  cases e with
  | ready =>
    show s.ready.desk.Placed
    unfold ready
    split
    · exact h.placed
    · exact placed_refresh (s := { s with engineReady := true }) h.placed
  | requestParse =>
    show s.requestParse.desk.Placed
    unfold requestParse
    split
    · exact placed_begin h.placed
    · exact h.placed
  | tick now => exact placed_tick h.placed engine now
  | flush =>
    show s.flush.desk.Placed
    unfold flush
    split <;> exact h.placed
  | edited d now => cases d <;> exact h.placed
  | setOptimization | setPackrat | setAutoRefresh => exact h.placed
  | setPanelShown panel on => exact h.placed.relayout _
  | errorClicked list index => exact placed_errorClicked h list index
  | change slot c =>
    -- A move of the host is a click in a gutter; a click on an error is an event of its own.
    refine h.placed.update (Change.placed_apply (h.placed slot) ?_ fun text hc => short slot text (by rw [hc]))
    rintro p rfl
    obtain ⟨i, onDot, rfl⟩ := hosts
    exact h.located.landing slot i onDot

theorem anchored_start (store : σ) : (start store : Session σ τ).Anchored := by
  refine ⟨⟨rfl, trivial⟩, Desk.Placed.relayout (fun slot => ?_) _⟩
  rcases slot with (_ | _) | (_ | _ | _) <;>
    exact Buffer.placed_of_below ⟨Nat.two_pow_pos 63, Nat.two_pow_pos 63⟩

/-- **Histories of what a host does, with short texts all the time.** -/
def Hosted [Wording] : Session σ τ → List (Turn τ) → Prop
  | s, [] => s.Short
  | s, t :: rest => s.Short ∧ s.Hosts t.event ∧ Hosted (s.step t.engine t.event) rest

theorem anchored_play [Wording] (h : s.Anchored) {turns : List (Turn τ)} (hosted : s.Hosted turns) :
    (s.play turns).Anchored ∧ (s.play turns).Short := by
  induction turns generalizing s with
  | nil => exact ⟨h, hosted⟩
  | cons t rest ih =>
    obtain ⟨short, hosts, hrest⟩ := hosted
    exact ih (h.step t.engine hosts fun slot _ _ => short slot) hrest

end Anchored

end Session

/-! ### Windows -/

namespace Window

variable {σ τ : Type}

/-- A cursor as the status bar tells it, with both numbers counted in words of 64 bits. -/
def wordText (title : String) (p : Position) : String :=
  title ++ "  Ln " ++ (UInt64.ofNat p.row + 1).toNat.repr ++ ", Col " ++ (UInt64.ofNat p.col + 1).toNat.repr

/-- One can be added to a number in range. -/
theorem toNat_add_one {n : Nat} (h : n < 2 ^ 63) : (UInt64.ofNat n + 1).toNat = n + 1 := by
  have hn : (UInt64.ofNat n).toNat = n := UInt64.toNat_ofNat_of_lt' (by rw [UInt64.size]; omega)
  rw [UInt64.toNat_add, hn, UInt64.toNat_one]
  exact Nat.mod_eq_of_lt (by omega)

theorem wordText_eq (title : String) {p : Position} (h : p.Below (2 ^ 63)) : wordText title p = cursorText title p := by
  rw [wordText, cursorText, toNat_add_one h.1, toNat_add_one h.2]

/-! ### Drawing -/

section Areas

variable {w : Window σ τ}

theorem anchored_updateBuffer (h : w.session.Anchored) {slot : Slot} {f : Buffer → Buffer}
    (hslot : (f (w.session.desk.get slot)).Placed) : (w.updateBuffer slot f).session.Anchored :=
  ⟨h.located.congr rfl rfl, h.placed.update hslot⟩

/-- **To draw a text area leaves all cursors placed**, whatever is typed and wherever is clicked. -/
theorem anchored_drawArea (h : w.session.Anchored) (slot : Slot) (stroke : Option Stroke) (hit : Option Target) :
    (w.drawArea stroke hit slot).1.session.Anchored := by
  have htaken : (w.takeRequests slot).2.session.Anchored := by
    rw [session_takeRequests]
    exact anchored_updateBuffer h (h.placed slot)
  have hstruck : ((w.takeRequests slot).2.takeStroke slot stroke).1.session.Anchored := by
    obtain hsame | ⟨-, text, index, hstruck⟩ := session_takeStroke_cases (w.takeRequests slot).2 slot stroke
    · rw [hsame]
      exact htaken
    · -- The cursor is reported as soon as the text is there, so neither text has to be short.
      rw [hstruck]
      exact anchored_updateBuffer htaken (Buffer.placed_syncCursor _ index)
  rw [session_drawArea]
  obtain hsame | ⟨row, onDot, -, hclicked⟩ := session_clickGutter_cases
    (((w.takeRequests slot).2.takeStroke slot stroke).1.drawGutter slot) slot hit
  · rw [hsame]
    exact hstruck
  · rw [hclicked]
    exact anchored_updateBuffer hstruck (hstruck.located.landing slot _ onDot)

theorem anchored_drawAreas (h : w.session.Anchored) (stroke : Option Stroke) (hit : Option Target)
    (slots : List Slot) : (w.drawAreas stroke hit slots).1.session.Anchored := by
  induction slots generalizing w with
  | nil => exact h
  | cons slot rest ih => exact ih (anchored_drawArea h slot stroke hit)

/-- The labels are drawn before the text areas, which leave them as they are. -/
theorem labels_drawArea (slot : Slot) (stroke : Option Stroke) (hit : Option Target) :
    (w.drawArea stroke hit slot).1.picture.labels = w.picture.labels := by
  have htaken : (w.takeRequests slot).2.picture = w.picture := by
    unfold takeRequests
    dsimp only
    split <;> rfl
  have hstruck : ((w.takeRequests slot).2.takeStroke slot stroke).1.picture = (w.takeRequests slot).2.picture := by
    unfold takeStroke handleStroke
    dsimp only
    split
    · split <;> rfl
    · rfl
  have hclicked : ∀ w : Window σ τ, (w.clickGutter slot hit).picture = w.picture := by
    intro w
    unfold clickGutter
    split
    · split <;> rfl
    · rfl
  have hdrawn : (w.drawArea stroke hit slot).1.picture =
      ((((w.takeRequests slot).2.takeStroke slot stroke).1.drawGutter slot).clickGutter slot hit).picture := by
    unfold drawArea
    dsimp only
    split <;> rfl
  rw [hdrawn, hclicked, ← htaken, ← hstruck]
  rfl

theorem labels_drawAreas (stroke : Option Stroke) (hit : Option Target) (slots : List Slot) :
    (w.drawAreas stroke hit slots).1.picture.labels = w.picture.labels := by
  induction slots generalizing w with
  | nil => rfl
  | cons slot rest ih => exact ih.trans (labels_drawArea slot stroke hit)

end Areas

/-- The status bar tells where the cursors of the documents are. -/
theorem cursorText_mem_labels (s : Session σ τ) (listOpen : Bool) (pointer : Option (Slot × Nat)) (d : Document) :
    (⟨cursorText (documentTitle d) (s.desk.get (.document d)).cursor, .nothing⟩ : Label) ∈
      labels s listOpen pointer := by
  have hbar : (⟨cursorText (documentTitle d) (s.desk.get (.document d)).cursor, .nothing⟩ : Label) ∈ statusBar s := by
    cases d <;> simp [statusBar, Desk.get]
  simp [labels, hbar]

/-! ### Updates -/

/-- What a click does to a session is no change of a text area. -/
theorem ne_change_of_eventsOf {s : Session σ τ} {now : τ} {t : Target} {e : Event τ} (h : e ∈ eventsOf s now t)
    (slot : Slot) (c : Change) : e ≠ .change slot c := by
  cases t with
  | packrat | autoRefresh | panel =>
    rw [List.mem_singleton.mp h]
    simp
  | optimization | parse | errorRow =>
    simp only [eventsOf] at h
    split at h
    all_goals
      first
        | cases h
          done
        | rw [List.mem_singleton.mp h]
          simp
  | optimizationBox | line | nothing => cases h

/-- Nor is what is reported at the end of an update. -/
theorem ne_change_of_reported {s : Session σ τ} {now : τ} {edited : List Document} {hit : Option Target} {e : Event τ}
    (h : e ∈ edited.map (Event.edited · now) ++ (hit.map (eventsOf s now)).getD []) (slot : Slot) (c : Change) :
    e ≠ .change slot c := by
  rcases List.mem_append.mp h with h | h
  · obtain ⟨d, -, rfl⟩ := List.mem_map.mp h
    simp
  · cases hit with
    | none => cases h
    | some t => exact ne_change_of_eventsOf h slot c

variable [Store σ] [Clock τ]

/-- The tick at the beginning of an update, and the signal, leave the documents' text areas alone. -/
theorem desk_document_advance [Wording] (engine : Engine) (w : Window σ τ) (now : τ) (d : Document) :
    (w.advance engine now).session.desk.get (.document d) = w.session.desk.get (.document d) := by
  have htick : (w.session.tick engine now).desk.get (.document d) = w.session.desk.get (.document d) :=
    Session.desk_document_step engine w.session (e := .tick now) rfl d
  unfold advance
  dsimp only
  split
  · exact htick
  · exact (Session.desk_document_step engine _ (e := .ready) rfl d).trans htick

theorem anchored_advance [Wording] {w : Window σ τ} (h : w.session.Anchored) (engine : Engine) (now : τ) :
    (w.advance engine now).session.Anchored := by
  have htick : (w.session.tick engine now).Anchored :=
    h.step engine (e := .tick now) trivial fun _ _ hc => by cases hc
  unfold advance
  dsimp only
  split
  · exact htick
  · exact htick.step engine (e := .ready) trivial fun _ _ hc => by cases hc

/-- **An update leaves all cursors placed.** -/
theorem anchored_draw [Wording] {w : Window σ τ} (h : w.session.Anchored) (f : Frame τ) :
    (w.draw f).session.Anchored := by
  have hdrawn : (drawn f.engine w f.now f.input).1.session.Anchored :=
    anchored_drawAreas (w := (w.advance f.engine f.now).meet f.input) (anchored_advance h f.engine f.now) _ _ _
  rw [draw, update_session]
  refine Session.run_preserves f.engine (P := Session.Anchored) (fun s e he hs => ?_) hdrawn
  have hnochange := ne_change_of_reported he
  refine hs.step f.engine ?_ fun slot text hc => absurd hc (hnochange slot _)
  cases e with
  | change slot c => exact absurd rfl (hnochange slot c)
  | _ => trivial

theorem anchored_play [Wording] {w : Window σ τ} (h : w.session.Anchored) (frames : List (Frame τ)) :
    (w.play frames).session.Anchored := by
  induction frames generalizing w with
  | nil => exact h
  | cons f rest ih => exact ih (anchored_draw h f)

/-- The status bar of an update tells where the cursors were before. -/
theorem cursorText_mem_draw [Wording] (w : Window σ τ) (f : Frame τ) (d : Document) :
    (⟨cursorText (documentTitle d) (w.session.desk.get (.document d)).cursor, .nothing⟩ : Label) ∈
      (w.draw f).picture.labels := by
  have hdrawn : (drawn f.engine w f.now f.input).1.picture.labels =
      ((w.advance f.engine f.now).meet f.input).picture.labels :=
    labels_drawAreas (w := (w.advance f.engine f.now).meet f.input) _ _ _
  rw [show (w.draw f).picture.labels = _ from hdrawn, ← desk_document_advance f.engine w f.now d]
  exact cursorText_mem_labels _ _ _ d

end Window

/-! ### What is reached -/

namespace Session

variable {σ τ : Type}

/-- All numbers of a session fit: nothing was lost of the errors on view, and the cursors leave room for one more. -/
structure Fits (s : Session σ τ) : Prop where
  errors : ∀ d, ∀ item ∈ s.view.items d, ∃ e ∈ s.outcome.errors d, item = .ofEntry e ∧ e.Exact
  cursors : ∀ slot, (s.desk.get slot).cursor.Below (2 ^ 63)
  /-- The status bar need not know that it counts in words. -/
  words : ∀ title slot, wordText title (s.desk.get slot).cursor = cursorText title (s.desk.get slot).cursor

theorem Anchored.fits {s : Session σ τ} (h : s.Anchored) (short : s.Short) : s.Fits where
  errors := by
    intro d item hitem
    obtain ⟨e, he, hofEntry, hrange⟩ := h.located.item hitem
    exact ⟨e, he, hofEntry, hrange.exact⟩
  cursors := fun slot => (h.placed slot).below (short slot)
  words := fun title slot => wordText_eq title ((h.placed slot).below (short slot))

end Session

namespace Window

variable {σ τ : Type} [Store σ] [Clock τ]

/-- **All positions fit.**  Whatever an engine answers, nothing is lost when an error that is reported becomes a row of
a list.  After any history in which a host moves cursors by clicks in gutters alone, and after any run of a window, all
numbers fit as long as the texts are short, and the status bar of the next update tells the true ones, although it
counts in words. -/
theorem positions_fit [Wording] (store : σ) :
    (∀ (engine : Engine) (r : Request) (d : Document),
      ∀ e ∈ (analyze engine r).outcome.errors d, e.Exact) ∧
      (∀ turns : List (Turn τ), (Session.start store : Session σ τ).Hosted turns →
        ((Session.start store : Session σ τ).play turns).Fits) ∧
      ∀ frames : List (Frame τ),
        let w : Window σ τ := (start store).play frames
        w.session.Short → w.session.Fits ∧ ∀ (f : Frame τ) (d : Document),
          (⟨wordText (documentTitle d) (w.session.desk.get (.document d)).cursor, .nothing⟩ : Label) ∈
            (w.draw f).picture.labels := by
  refine ⟨fun engine r d e he => ((Outcome.inRange_analyze engine r).entry he).exact, fun turns hosted => ?_,
    fun frames => ?_⟩
  · obtain ⟨hanchored, hshort⟩ := Session.anchored_play (Session.anchored_start store) hosted
    exact hanchored.fits hshort
  · intro w short
    have hfits : w.session.Fits := (anchored_play (w := start store) (Session.anchored_start store) frames).fits short
    refine ⟨hfits, fun f d => ?_⟩
    rw [hfits.words]
    exact cursorText_mem_draw w f d

/-- An error that is as far away as one can be.  A click brings the cursor there, and it stays when the text is taken
away. -/
theorem positions_fit_furthest :
    let answer := "\x7b\"grammar_valid\":false,\"grammar\":[" ++
      "\x7b\"line\":9223372036854775807,\"col\":1,\"message\":\"m\"\x7d]\x7d"
    let store : Store.Memory := ⟨[("grammarText", "start <- 'a'")]⟩
    let events : List (Event Float) := [.requestParse, .tick 0, .errorClicked .grammar 0, .change .grammar (.typed "")]
    let turns : List (Turn Float) := events.map (Turn.mk fun _ => .ok answer)
    let s : Session Store.Memory Float := (Session.start store).play turns
    (Session.start store : Session Store.Memory Float).Hosted turns ∧
      s.desk.grammar.cursor = ⟨2 ^ 63 - 2, 0⟩ ∧ s.desk.grammar.text = "" ∧ s.Fits := by
  intro answer store events turns s
  have hosted : (Session.start store : Session Store.Memory Float).Hosted turns := by
    refine ⟨?_, trivial, ?_, trivial, ?_, trivial, ?_, trivial, show Session.Short _ from ?_⟩ <;> decide +kernel
  exact ⟨hosted, by decide +kernel, by decide +kernel, (positions_fit store).2.1 turns hosted⟩

end Window

end GrammarStudio
