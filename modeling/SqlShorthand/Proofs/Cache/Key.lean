import SqlShorthand.Cache.Basic
import SqlShorthand.Placeholder
import SqlShorthand.Proofs.Text

/-!
# Proofs/Cache/Key — which queries share a key

A derived key is the digest of one text, `keyText`: the connection's number, the SQL and the texts of
the values, with nothing between them.  So the question has two halves:

* `keyFor_eq_iff_keyText` — the digest adds nothing of its own: if SHA-1 does not collide on two
  queries, they share a key exactly when they are one text;
* `Determined` — what one text determines: the connection if neither SQL starts with a digit, the
  SQL if the two are equally long, the values if they line up.

Where parts are not held apart like this they run together, and `keyFor_runs_together` shows each of
the three at it.
-/

namespace SqlShorthand

namespace Digest

/-! ## The digest as a text -/

/-- Two different messages with one digest. -/
def IsCollision (m m' : List UInt8) : Prop := m ≠ m' ∧ sha1 m = sha1 m'

theorem hexDigit_inj {m n : Nat} (h : hexDigit m = hexDigit n) : m % 16 = n % 16 := by
  have hchar : ∀ a b : Fin 16, Nat.digitChar a = Nat.digitChar b → a = b := by decide
  exact congrArg Fin.val (hchar ⟨m % 16, Nat.mod_lt _ (by omega)⟩ ⟨n % 16, Nat.mod_lt _ (by omega)⟩ h)

theorem hexByte_inj {a b : UInt8} (h : hexByte a = hexByte b) : a = b := by
  simp only [hexByte, List.cons.injEq, and_true] at h
  have hhigh := hexDigit_inj h.1
  have hlow := hexDigit_inj h.2
  have ha := a.toNat_lt
  have hb := b.toNat_lt
  exact UInt8.toNat_inj.mp (by omega)

/-- Two digits a byte, so the bytes can be cut out again. -/
theorem flatMap_hexByte_inj {as bs : List UInt8} (h : as.flatMap hexByte = bs.flatMap hexByte) :
    as = bs := by
  induction as generalizing bs with
  | nil =>
    cases bs with
    | nil => rfl
    | cons b bs => cases h
  | cons a as ih =>
    cases bs with
    | nil => cases h
    | cons b bs =>
      obtain ⟨hhead, htail⟩ := List.append_inj h rfl
      rw [hexByte_inj hhead, ih htail]

/-- **Without a collision, the digest tells messages apart.** -/
theorem sha1Hex_eq_iff {m m' : List UInt8} (h : ¬IsCollision m m') :
    sha1Hex m = sha1Hex m' ↔ m = m' := by
  refine ⟨fun heq => ?_, congrArg sha1Hex⟩
  have hbytes : sha1 m = sha1 m' := flatMap_hexByte_inj (String.ofList_injective heq)
  exact not_not.mp fun hne => h ⟨hne, hbytes⟩

end Digest

namespace Cache

variable {σ : Type} {c c' : Cache σ} {id id' : ConnectionId} {sql sql' : String}
  {params params' : Params}

/-! ## A message is a text -/

/-- The texts of the values, one after the other. -/
def valuesText (params : Params) : String := String.join (params.values.map Value.asText)

/-- **The text behind a key**, with nothing between its parts. -/
def keyText (id : ConnectionId) (sql : String) (params : Params) : String :=
  toString id.toNat ++ sql ++ valuesText params

theorem bytes_append (s t : String) : bytes (s ++ t) = bytes s ++ bytes t := by
  simp only [bytes, String.toUTF8_eq_toByteArray, String.toByteArray_append,
    ByteArray.toList_data_append]

theorem bytes_inj {s t : String} (h : bytes s = bytes t) : s = t := by
  simp only [bytes, String.toUTF8_eq_toByteArray] at h
  exact String.toByteArray_inj.mp (ByteArray.ext (Array.toList_inj.mp h))

theorem bytes_join (texts : List String) : bytes (String.join texts) = texts.flatMap bytes := by
  induction texts with
  | nil => rfl
  | cons s texts ih => rw [String.join_cons, bytes_append, ih, List.flatMap_cons]

theorem keyMessage_eq (id : ConnectionId) (sql : String) (params : Params) :
    keyMessage id sql params = bytes (keyText id sql params) := by
  rw [keyMessage, keyText, bytes_append, bytes_append, valuesText, bytes_join, List.flatMap_map]

/-- A label stands before every derived key alike, so it separates none. -/
theorem keyFor_eq_iff_digest (hkey : c.key = none) (hkey' : c'.key = none)
    (hlabel : c.label = c'.label) :
    c.keyFor id sql params = c'.keyFor id' sql' params' ↔
      Digest.sha1Hex (keyMessage id sql params) = Digest.sha1Hex (keyMessage id' sql' params') := by
  rw [keyFor, keyFor, hkey, hkey', hlabel]
  cases c'.label with
  | none => exact Iff.rfl
  | some label => exact String.append_right_inj _

/-- **Two queries share a key exactly when they are one text.** -/
theorem keyFor_eq_iff_keyText (hkey : c.key = none) (hkey' : c'.key = none)
    (hlabel : c.label = c'.label)
    (hsha : ¬Digest.IsCollision (keyMessage id sql params) (keyMessage id' sql' params')) :
    c.keyFor id sql params = c'.keyFor id' sql' params' ↔
      keyText id sql params = keyText id' sql' params' := by
  rw [keyFor_eq_iff_digest hkey hkey' hlabel, Digest.sha1Hex_eq_iff hsha, keyMessage_eq,
    keyMessage_eq]
  exact ⟨bytes_inj, congrArg bytes⟩

/-! ## What one text determines -/

/-- SQL that a number before it does not run into: it starts with no digit. -/
def StartsApart (sql : String) : Prop := ∃ ch, sql.toList.head? = some ch ∧ ch.isDigit = false

/-- The digits before SQL that starts apart are the number's. -/
theorem takeWhile_keyText (id : ConnectionId) (h : StartsApart sql) (params : Params) :
    (keyText id sql params).toList.takeWhile Char.isDigit = Nat.toDigits 10 id.toNat := by
  obtain ⟨ch, hhead, hch⟩ := h
  rw [keyText, String.toList_append, String.toList_append, List.append_assoc,
    Nat.toString_eq_repr, Nat.toList_repr]
  refine Text.takeWhile_run (fun d hd => Nat.isDigit_of_mem_toDigits (by omega) (by omega) hd) ?_
  intro d hd
  rw [List.head?_append, hhead] at hd
  cases hd
  exact hch

/-- **SQL that starts apart leaves the connection to be read.** -/
theorem connection_of_keyText (h : keyText id sql params = keyText id' sql' params')
    (hsql : StartsApart sql) (hsql' : StartsApart sql') : id = id' := by
  have hdigits : Nat.toDigits 10 id.toNat = Nat.toDigits 10 id'.toNat := by
    rw [← takeWhile_keyText id hsql params, h, takeWhile_keyText id' hsql']
  have hrepr : id.toNat.repr = id'.toNat.repr := by
    rw [Nat.repr_eq_ofList_toDigits, Nat.repr_eq_ofList_toDigits, hdigits]
  exact UInt32.toNat_inj.mp (Nat.repr_inj.mp hrepr)

theorem keyText_left_inj :
    keyText id sql params = keyText id sql' params' ↔
      sql ++ valuesText params = sql' ++ valuesText params' := by
  rw [keyText, keyText, String.append_assoc, String.append_assoc, String.append_right_inj]

theorem keyText_right_inj : keyText id sql params = keyText id' sql params ↔ id = id' := by
  rw [keyText, keyText, String.append_left_inj, String.append_left_inj]
  exact Nat.repr_inj.trans UInt32.toNat_inj

/-- Texts that agree when put together agree part by part if their first parts are equally long. -/
theorem append_inj_of_length {s s' t t' : String} (h : s ++ t = s' ++ t')
    (hlength : s.length = s'.length) : s = s' ∧ t = t' := by
  have hlist := congrArg String.toList h
  rw [String.toList_append, String.toList_append] at hlist
  obtain ⟨hs, ht⟩ := List.append_inj hlist (by rwa [String.length_toList, String.length_toList])
  exact ⟨String.toList_inj.mp hs, String.toList_inj.mp ht⟩

theorem valuesText_of_isEmpty (h : params.isEmpty = true) : valuesText params = "" := by
  cases params with
  | none => rfl
  | named r =>
    have hfields : r.fields = [] := List.isEmpty_iff.mp h
    simp [valuesText, Params.values, Record.values, hfields]
  | positional vs =>
    obtain rfl : vs = [] := List.isEmpty_iff.mp h
    rfl

end Cache

/-! ## Values that line up -/

/-- Values of one kind.  The text of a double is not held against it: two doubles line up only if
they are the same. -/
inductive Value.SameKind : Value → Value → Prop where
  | null : SameKind .null .null
  | bool (b b' : Bool) : SameKind (.bool b) (.bool b')
  | int (n n' : Int64) : SameKind (.int n) (.int n')
  | float (x : Float) : SameKind (.float x) (.float x)
  | text (s s' : String) : SameKind (.text s) (.text s')
  | raw (s s' : String) : SameKind (.raw s) (.raw s')

/-- Values of one kind with equally long texts. -/
structure Value.Aligned (v w : Value) : Prop where
  kind : v.SameKind w
  length : v.asText.length = w.asText.length

/-- **Parameter sets that line up**: given in one way, under the same names, value by value
aligned. -/
inductive Params.Aligned : Params → Params → Prop where
  | none : Aligned .none .none
  | named {r r' : Record} (names : r.names = r'.names)
      (values : List.Forall₂ Value.Aligned r.values r'.values) : Aligned (.named r) (.named r')
  | positional {vs vs' : List Value} (values : List.Forall₂ Value.Aligned vs vs') :
      Aligned (.positional vs) (.positional vs')

/-- Within one kind, the text is the value. -/
theorem Value.SameKind.eq_of_asText {v w : Value} (h : v.SameKind w) (htext : v.asText = w.asText) :
    v = w := by
  cases h with
  | null | float x => rfl
  | bool b b' => revert htext; cases b <;> cases b' <;> decide
  | int n n' => exact congrArg Value.int (Int64.toInt_inj.mp (Int.repr_inj.mp htext))
  | text s s' => exact congrArg Value.text htext
  | raw s s' => exact congrArg Value.raw htext

/-- Aligned values are read off their texts put together: each text ends where the other one does. -/
theorem eq_of_join_asText {vs ws : List Value} (h : List.Forall₂ Value.Aligned vs ws)
    (htext : String.join (vs.map Value.asText) = String.join (ws.map Value.asText)) : vs = ws := by
  induction h with
  | nil => rfl
  | cons hvw _ ih =>
    rw [List.map_cons, List.map_cons, String.join_cons, String.join_cons] at htext
    obtain ⟨hhead, htail⟩ := Cache.append_inj_of_length htext hvw.length
    rw [hvw.kind.eq_of_asText hhead, ih htail]

theorem Record.ext_of_names_values {r r' : Record} (hnames : r.names = r'.names)
    (hvalues : r.values = r'.values) : r = r' := by
  obtain ⟨fields⟩ := r
  obtain ⟨fields'⟩ := r'
  refine congrArg Record.mk ?_
  rw [← List.zip_unzip fields, ← List.zip_unzip fields', List.unzip_eq_map, List.unzip_eq_map]
  exact congrArg₂ List.zip hnames hvalues

/-- **Parameter sets that line up are read off their values' texts.** -/
theorem Params.Aligned.eq_of_valuesText {params params' : Params} (h : params.Aligned params')
    (htext : Cache.valuesText params = Cache.valuesText params') : params = params' := by
  cases h with
  | none => rfl
  | named hnames hvalues =>
    exact congrArg Params.named
      (Record.ext_of_names_values hnames (eq_of_join_asText hvalues htext))
  | positional hvalues => exact congrArg Params.positional (eq_of_join_asText hvalues htext)

namespace Cache

variable {σ : Type} {c c' : Cache σ} {id id' : ConnectionId} {sql sql' : String}
  {params params' : Params}

/-- **What one text determines** of two queries: each part, where nothing lets it run into the
next. -/
structure Determined (id id' : ConnectionId) (sql sql' : String) (params params' : Params) :
    Prop where
  /-- A number does not run into SQL that starts with no digit. -/
  connection_eq : StartsApart sql → StartsApart sql' → id = id'
  /-- One query on two connections is two texts. -/
  connection_eq_of_same : sql = sql' → params = params' → id = id'
  /-- SQL of one length ends in one place. -/
  sql_eq : id = id' → sql.length = sql'.length → sql = sql'
  /-- SQL without values is all that follows the number. -/
  sql_eq_of_isEmpty : id = id' → params.isEmpty = true → params'.isEmpty = true → sql = sql'
  /-- Values that line up end in the same places, so every placeholder gets the same value. -/
  params_eq : id = id' → sql = sql' → params.Aligned params' → params = params'

theorem determined_of_keyText (h : keyText id sql params = keyText id' sql' params') :
    Determined id id' sql sql' params params' := by
  refine ⟨connection_of_keyText h, ?_, ?_, ?_, ?_⟩
  · rintro rfl rfl
    exact keyText_right_inj.mp h
  · rintro rfl hlength
    exact (append_inj_of_length (keyText_left_inj.mp h) hlength).1
  · rintro rfl hempty hempty'
    have htext := keyText_left_inj.mp h
    rwa [valuesText_of_isEmpty hempty, valuesText_of_isEmpty hempty', String.append_left_inj]
      at htext
  · rintro rfl rfl haligned
    exact haligned.eq_of_valuesText ((String.append_right_inj sql).mp (keyText_left_inj.mp h))

/-- **Which queries share a key**, where no key is set for one query and the labels are the same: if
SHA-1 does not collide on them, exactly those that are one text — and what that text determines is
then common to both. -/
theorem keyFor_eq_iff_determined (c c' : Cache σ) (hkey : c.key = none) (hkey' : c'.key = none)
    (hlabel : c.label = c'.label) (id id' : ConnectionId) (sql sql' : String)
    (params params' : Params)
    (hsha : ¬Digest.IsCollision (keyMessage id sql params) (keyMessage id' sql' params')) :
    (c.keyFor id sql params = c'.keyFor id' sql' params' ↔
      keyText id sql params = keyText id' sql' params') ∧
    (c.keyFor id sql params = c'.keyFor id' sql' params' →
      Determined id id' sql sql' params params') := by
  have hiff := keyFor_eq_iff_keyText hkey hkey' hlabel hsha
  exact ⟨hiff, fun h => determined_of_keyText (hiff.mp h)⟩

/-- Two values for one placeholder, on a connection with a label: the texts differ, so do the
keys. -/
theorem keyFor_eq_iff_determined_select :
    let c : Cache MemoryStore := { store := {}, clock := .fixed 0, label := some "users" }
    ¬Digest.IsCollision (keyMessage 1 "SELECT :a" (.named ⟨[("a", .int 1)]⟩))
        (keyMessage 1 "SELECT :a" (.named ⟨[("a", .int 2)]⟩)) ∧
      c.keyFor 1 "SELECT :a" (.named ⟨[("a", .int 1)]⟩)
        ≠ c.keyFor 1 "SELECT :a" (.named ⟨[("a", .int 2)]⟩) := by
  intro c
  have hsha : ¬Digest.IsCollision (keyMessage 1 "SELECT :a" (.named ⟨[("a", .int 1)]⟩))
      (keyMessage 1 "SELECT :a" (.named ⟨[("a", .int 2)]⟩)) :=
    fun h => absurd h.2 (by decide +kernel)
  refine ⟨hsha, fun h => ?_⟩
  have hshared := keyFor_eq_iff_determined c c rfl rfl rfl 1 1 "SELECT :a" "SELECT :a"
    (.named ⟨[("a", .int 1)]⟩) (.named ⟨[("a", .int 2)]⟩) hsha
  exact absurd (hshared.1.mp h) (by decide +kernel)

/-! ## Parts that run together -/

/-- Two queries share a key, and SHA-1 is not to blame. -/
def SharesKey (c : Cache σ) (id id' : ConnectionId) (sql sql' : String) (params params' : Params) :
    Prop :=
  ¬Digest.IsCollision (keyMessage id sql params) (keyMessage id' sql' params') ∧
    c.keyFor id sql params = c.keyFor id' sql' params'

theorem sharesKey_of_keyText (hkey : c.key = none)
    (h : keyText id sql params = keyText id' sql' params') :
    c.SharesKey id id' sql sql' params params' := by
  have hmessage : keyMessage id sql params = keyMessage id' sql' params' := by
    rw [keyMessage_eq, keyMessage_eq, h]
  have hsha := fun hcollision : Digest.IsCollision _ _ => hcollision.1 hmessage
  exact ⟨hsha, (keyFor_eq_iff_keyText hkey hkey rfl hsha).mpr h⟩

/-- **Different queries under one key**: a number that runs into the SQL, SQL that runs into its
value, and two values that run into each other — the same placeholders, bound differently. -/
theorem keyFor_runs_together :
    let c : Cache MemoryStore := { store := {}, clock := .fixed 0 }
    let sql := "SELECT id FROM t WHERE a=:a AND b=:b"
    let one := Params.named ⟨[("a", .int 1), ("b", .int 23)]⟩
    let two := Params.named ⟨[("a", .int 12), ("b", .int 3)]⟩
    c.key = none ∧
    c.SharesKey 1 11 "1SELECT 1" "SELECT 1" .none .none ∧
    c.SharesKey 1 1 "SELECT id FROM t WHERE a=? LIMIT 1" "SELECT id FROM t WHERE a=? LIMIT 10"
      (.positional [.int 0]) (.positional [.null]) ∧
    c.SharesKey 1 1 sql sql one two ∧ Placeholder.bind sql one ≠ Placeholder.bind sql two := by
  intro c sql one two
  refine ⟨rfl, sharesKey_of_keyText rfl ?_, sharesKey_of_keyText rfl ?_,
    sharesKey_of_keyText rfl ?_, ?_⟩
  · decide +kernel
  · decide +kernel
  · decide +kernel
  · have hone : Placeholder.bind sql one
        = .ok ("SELECT id FROM t WHERE a=? AND b=?", [.int 1, .int 23]) := by cbv
    have htwo : Placeholder.bind sql two
        = .ok ("SELECT id FROM t WHERE a=? AND b=?", [.int 12, .int 3]) := by cbv
    rw [hone, htwo]
    simp

end Cache

end SqlShorthand
