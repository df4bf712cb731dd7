import SurrealSync.Native.Codec

open Except

namespace surrealdb_rn_core.sync_queue

def MAX_COMMITS : UInt32 := 64

def MAX_BYTES : UInt32 := 4 * 1024 * 1024

def limits (count bytes : UInt32) : NativeResult Unit :=
  refuse (count = 0 ∨ count > MAX_COMMITS ∨ ¬ (2 ≤ bytes ∧ bytes ≤ MAX_BYTES)) .InvalidInput

/-- What the JSON library writes for an item, and for a string. It writes UTF-8 only, so
reading its bytes back as a string does not fail. -/
structure JsonWriter (T : Type) where
  item : T → Option String
  string : String → String

/-- The budget of the writer is met exactly by the texts that fit into it. -/
def bounded_json (text : Option String) (limit : Nat) : Option String :=
  text.filter fun text => text.utf8ByteSize ≤ limit

variable {T : Type} (json : JsonWriter T)

/-- One pass of the loop: the charge so far, and whether an item was charged before. -/
def charge (bytes : UInt32) : Nat × Bool → T → NativeResult (Nat × Bool)
  | (charged, seen), value => do
    let available := bytes.toNat - charged
    let raw ← okOr (bounded_json (json.item value) available) .QueueCapacity
    let comma := seen.toNat
    let quoted ← okOr (bounded_json (some (json.string raw)) (available - comma)) .QueueCapacity
    return (charged + quoted.utf8ByteSize + comma, true)

def admits (items : List T) (candidate : T) (count bytes : UInt32) : NativeResult Unit := do
  limits count bytes
  refuse (items.length ≥ count.toNat) NativeSyncError.QueueCapacity
  let _ ← (items ++ [candidate]).foldlM (charge json bytes) (2, false)

end surrealdb_rn_core.sync_queue
