import GrammarStudio.Files.Fault
import GrammarStudio.Store.Entries

/-!
# Stores of texts under keys

A store remembers texts under keys between sessions.  A write can fail; a read cannot, it finds a text or nothing.

* `Store` — the interface;
* `WriteError` — a failed write, with its message;
* `Memory` — a store that lives as long as its session;
* `Journal` — a store that keeps a record of the writes it is asked for, and can be told to refuse them.
-/

namespace GrammarStudio

/-- A write that failed. -/
structure Store.WriteError where
  path : String
  cause : Files.Fault
  deriving DecidableEq, Repr

def Store.WriteError.message (e : Store.WriteError) : String :=
  "failed to write settings store '" ++ e.path ++ "': " ++ e.cause.message

/-- What a session needs of a store. -/
class Store (σ : Type) where
  get : σ → String → Option String
  /-- The store after the attempt, and how it went. -/
  set : σ → String → String → σ × Except Store.WriteError Unit

namespace Store

/-! ### Memory -/

/-- A store in memory. -/
structure Memory where
  entries : Entries := []
  deriving DecidableEq, Repr

instance : Store Memory where
  get m key := m.entries.get? key
  set m key value := (⟨m.entries.insert key value⟩, .ok ())

/-! ### Journal -/

/-- A write that was asked for. -/
structure Write where
  key : String
  value : String
  succeeded : Bool
  deriving DecidableEq, Repr

/-- A store with a record of the writes it was asked for, the latest first.  While it refuses, none reaches the store
inside. -/
structure Journal (σ : Type) where
  inner : σ
  refusing : Bool := false
  writes : List Write := []

/-- The refusal of a journal: the device is full. -/
def Journal.refusal : WriteError := ⟨"journal", .system 28⟩

instance {σ : Type} [Store σ] : Store (Journal σ) where
  get j key := get j.inner key
  set j key value :=
    if j.refusing then ({ j with writes := ⟨key, value, false⟩ :: j.writes }, .error Journal.refusal)
    else
      let (inner, result) := set j.inner key value
      ({ j with inner, writes := ⟨key, value, result.isOk⟩ :: j.writes }, result)

end Store

end GrammarStudio
