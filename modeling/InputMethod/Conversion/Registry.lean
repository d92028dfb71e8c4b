import InputMethod.Conversion.Engine
import InputMethod.Schema.Basic

/-! # Sharing engines

Filters configured with the same configuration share one engine. The registry maps each key
(the configured text) to an engine for as long as the engine has holders; when its last holder
lets go, the engine is gone and its key is forgotten, unless the key stands by then for a newer
engine that is still held.

Engines are numbered in the order they are made, and each draws its random choices from the
seed the registry gives its number (`seeds`): entropy, where engines are made for use, and seed 0
unless it says otherwise.

`require` turns a configured text into a held engine: the empty text means `t2s.json`; an
`.ini` configuration is refused; a relative path is looked up under `opencc/` in the data
directories, the user's first, and used as given when found in neither.
-/

namespace InputMethod

def defaultConversionConfig : String := "t2s.json"

/-- Engines by number, with the key each was made for and its number of holders, the key
    entries, and the seed of the engine of each number. -/
structure Registry where
  engines : Array Engine := #[]
  keys : Array String := #[]
  holders : Array Nat := #[]
  entries : List (String × Nat) := []
  seeds : Nat → UInt64 := fun _ => 0

namespace Registry

def isLive (r : Registry) (id : Nat) : Bool := 0 < r.holders.getD id 0

/-- The live engine registered under `key`. -/
def find? (r : Registry) (key : String) : Option Nat :=
  match r.entries.lookup key with
  | some id => if r.isLive id then some id else none
  | none => none

/-- Whether `key` has an entry. -/
def contains (r : Registry) (key : String) : Bool := (r.entries.lookup key).isSome

/-- The number of entries. -/
def size (r : Registry) : Nat := r.entries.length

/-- Take one more hold of engine `id`. -/
def hold (r : Registry) (id : Nat) : Registry :=
  { r with holders := r.holders.modify id (· + 1) }

def acquire (r : Registry) (key path : String) : Nat × Registry :=
  match r.find? key with
  | some id => (id, r.hold id)
  | none =>
    let id := r.engines.size
    (id, { r with engines := r.engines.push (Engine.create path (r.seeds id)),
                  keys := r.keys.push key, holders := r.holders.push 1,
                  entries := (r.entries.filter (·.1 != key)) ++ [(key, id)] })

def release (r : Registry) (id : Nat) : Registry :=
  let r := { r with holders := r.holders.modify id (· - 1) }
  if r.isLive id then r
  else
    let key := r.keys.getD id ""
    match r.entries.lookup key with
    | some other => if r.isLive other then r else { r with entries := r.entries.filter (·.1 != key) }
    | none => r

/-- Replace engine `id` by its new state. -/
def update (r : Registry) (id : Nat) (e : Engine) : Registry :=
  { r with engines := r.engines.set! id e }

/-- A hold of the engine for a configured text, looked up in the data directories. -/
def require (r : Registry) (fs : Files) (config : String) (dirs : DataDirs) :
    Except ConversionError (Nat × Registry) :=
  let key := if config.isEmpty then defaultConversionConfig else config
  match r.find? key with
  | some id => .ok (id, r.hold id)
  | none =>
    if Path.extension? key == some "ini" then .error (.legacyConfig key)
    else
      let path := if Path.isAbsolute key then key else (dirs.find fs "opencc" key).getD key
      .ok (r.acquire key path)

end Registry

end InputMethod
