import SqlShorthand.Digest
import SqlShorthand.Params
import SqlShorthand.Text.Quoted
import SqlShorthand.Text.Word
import SqlShorthand.Cache.Expiry
import SqlShorthand.Cache.Store

/-!
# Cache/Basic — results kept for a while

The cache decides under which key a result is kept and whether an entry is fresh; a store keeps it.
An expiry, a key or a key label can be set for one query: the next look at an entry's freshness uses
them up.
-/

namespace SqlShorthand

/-- A store with its clock and the settings of the next query. -/
structure Cache (σ : Type) where
  store : σ
  clock : Clock
  expireGlobal : Expiry := .standard
  expire : Expiry := .standard
  /-- The key of the next query, used as it is. -/
  key : Option String := none
  /-- What goes before the derived key of the next query. -/
  label : Option String := none

namespace Cache

variable {σ : Type}

/-- Forgets what was set for one query. -/
def reset (c : Cache σ) : Cache σ :=
  { c with expire := c.expireGlobal, key := none, label := none }

/-- Sets the expiry of every query. -/
def setExpireGlobal (c : Cache σ) (e : Expiry) : Cache σ := { c with expireGlobal := e }.reset

/-- Sets the expiry of the next query. -/
def setExpire (c : Cache σ) (e : Expiry) : Cache σ := { c with expire := e }

/-- A character of a key. -/
def isKeyChar (c : Char) : Bool := Text.isWord c || c == '-'

/-- Sets the key of the next query: word characters and hyphens, at least one. -/
def setKey (c : Cache σ) (key : String) : Except Error (Cache σ) :=
  if !key.isEmpty && key.toList.all isKeyChar then .ok { c with key := some key }
  else .error (.invalidCacheKey key)

/-- Sets what goes before the derived key of the next query; other than word characters are
dropped. -/
def setLabel (c : Cache σ) (label : String) : Cache σ :=
  { c with label := some (.ofList (label.toList.filter Text.isWord)) }

/-- The bytes of a text. -/
def bytes (s : String) : List UInt8 := s.toUTF8.data.toList

/-- What a key is derived from: the connection, the SQL and the values, one after the other. -/
def keyMessage (id : ConnectionId) (sql : String) (params : Params) : List UInt8 :=
  bytes (toString id.toNat) ++ bytes sql ++ params.values.flatMap fun v => bytes v.asText

/-- The key that a query's result is kept under. -/
def keyFor (c : Cache σ) (id : ConnectionId) (sql : String) (params : Params) : String :=
  match c.key with
  | some key => key
  | none =>
    let digest := Digest.sha1Hex (keyMessage id sql params)
    match c.label with
    | some label => label ++ "-" ++ digest
    | none => digest

/-- An optional text in a description. -/
def describeText : Option String → String
  | some s => "Some(" ++ Text.quoted s ++ ")"
  | none => "None"

/-- The settings in words. -/
def describe (c : Cache σ) : String :=
  "Cache \x7b expire_global: " ++ c.expireGlobal.describe ++ ", expire: " ++ c.expire.describe ++
    ", key: " ++ describeText c.key ++ ", key_prefix: " ++ describeText c.label ++ " \x7d"

/-! ## With a store -/

variable [Store σ]

/-- Whether a fresh entry is under the key; uses up what was set for one query. -/
def has (c : Cache σ) (key : String) : Bool × Cache σ :=
  let (written, store) := Store.writtenAt c.store key
  let fresh := match written with
    | some time => c.expire.fresh c.clock.now time
    | none => false
  (fresh, { c with store }.reset)

/-- The value under a key. -/
def read (c : Cache σ) (key : String) : Except Error Json × Cache σ :=
  let (r, store) := Store.read c.store key
  (r, { c with store })

/-- Keeps a value under a key, as of now. -/
def write (c : Cache σ) (key : String) (v : Json) : Except Error Unit × Cache σ :=
  let (r, store) := Store.write c.store key v c.clock.now
  (r, { c with store })

/-- Forgets every entry. -/
def flush (c : Cache σ) : Except Error Unit × Cache σ :=
  let (r, store) := Store.flush c.store
  (r, { c with store })

end Cache

end SqlShorthand
