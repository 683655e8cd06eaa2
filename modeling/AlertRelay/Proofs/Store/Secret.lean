import AlertRelay.Store.Reply
import AlertRelay.Store.Columns
import Mathlib.Data.List.Forall2

/-!
# Secrets in stored rows

The secret of a webhook is stored in a column of its own. Two rows that differ only in the texts of
that column read alike in every other column, and so they hold the same webhook but for its secret,
or fail to read for the same reason. The document of a webhook leaves the secret out.

## Main definitions

* `EndsAlike` — two computations fail alike, or give related values
* `Row.SameButSecret`, `StoreReply.SameButSecrets` — rows and replies that differ in secrets only
* `WebhookRecord.SameButSecret` — webhooks that differ in their secrets only

## Main results

* `WebhookRecord.ofRow_endsAlike` — the webhooks of such rows
* `WebhookRecord.map_json_ofRow` — their documents are the same
-/

namespace AlertRelay

variable {α β γ δ ε : Type}

/-! ## Computations that end alike -/

/-- Two computations fail for the same reason, or succeed with related values. -/
inductive EndsAlike (V : α → β → Prop) : Except ε α → Except ε β → Prop
  | error (e : ε) : EndsAlike V (.error e) (.error e)
  | ok {a : α} {b : β} (related : V a b) : EndsAlike V (.ok a) (.ok b)

namespace EndsAlike

variable {U : α → β → Prop} {V : γ → δ → Prop} {x : Except ε α} {y : Except ε β}
  {f : α → Except ε γ} {g : β → Except ε δ}

/-- Computations that go on from related values end alike if they do so from there. -/
theorem bind (alike : EndsAlike U x y) (next : ∀ {a b}, U a b → EndsAlike V (f a) (g b)) :
    EndsAlike V (x >>= f) (y >>= g) := by
  cases alike with
  | error e => exact .error e
  | ok related => exact next related

/-- Computations that go on from the same value end alike if they do so from every value. -/
theorem bind_same {x' : Except ε α} {g : α → Except ε δ} (same : x' = x)
    (next : ∀ a, EndsAlike V (f a) (g a)) : EndsAlike V (x >>= f) (x' >>= g) := by
  subst same
  cases x' with
  | error e => exact .error e
  | ok a => exact next a

/-- Computations that end alike with equal values are the same. -/
theorem eq {x y : Except ε α} (alike : EndsAlike Eq x y) : x = y := by
  cases alike with
  | error e => rfl
  | ok equal => exact congrArg Except.ok equal

theorem map {f : α → γ} {g : β → δ} (alike : EndsAlike U x y)
    (related : ∀ {a b}, U a b → V (f a) (g b)) : EndsAlike V (x.map f) (y.map g) := by
  cases alike with
  | error e => exact .error e
  | ok held => exact .ok (related held)

/-- What is the same of related values is the same of the two results. -/
theorem map_eq {f : α → γ} {g : β → γ} (alike : EndsAlike U x y)
    (same : ∀ {a b}, U a b → f a = g b) : x.map f = y.map g := by
  cases alike with
  | error e => rfl
  | ok related => exact congrArg Except.ok (same related)

end EndsAlike

/-! ## Rows -/

/-- The column that holds the secret of a webhook. -/
def secretColumn : String := "secret"

namespace Row

/-- Two columns are the same, or both hold some text for a secret. -/
inductive SameColumn : String × Value → String × Value → Prop
  | same (name : String) (value : Value) : SameColumn (name, value) (name, value)
  | secret (s s' : String) : SameColumn (secretColumn, .text s) (secretColumn, .text s')

/-- The rows are the same but for the texts of their secrets. -/
def SameButSecret (r r' : Row) : Prop := List.Forall₂ SameColumn r r'

namespace SameButSecret

variable {r r' : Row} {name : String}

theorem refl (r : Row) : r.SameButSecret r :=
  List.forall₂_same.mpr fun column _ => .same column.1 column.2

/-- Any column but that of the secret holds the same value. -/
theorem get (same : r.SameButSecret r') (other : name ≠ secretColumn) :
    r'.get name = r.get name := by
  have unfound : (name == secretColumn) = false := beq_eq_false_iff_ne.mpr other
  have found : List.lookup name r' = List.lookup name r := by
    induction same with
    | nil => rfl
    | cons column _ ih =>
      cases column with
      | same => rw [List.lookup_cons, List.lookup_cons, ih]
      -- a secret is passed over in both rows
      | secret s s' => rw [List.lookup_cons, List.lookup_cons, unfound, ih]
  rw [Row.get, Row.get, found]

/-- The column of the secret holds the same value, or some text in both rows. -/
theorem get_secret (same : r.SameButSecret r') :
    r'.get secretColumn = r.get secretColumn ∨
      ∃ s s', r.get secretColumn = .text s ∧ r'.get secretColumn = .text s' := by
  induction same with
  | nil => exact .inl rfl
  | cons column _ ih =>
    cases column with
    | secret s s' => exact .inr ⟨s, s', rfl, rfl⟩
    | same name value =>
      rw [Row.get, Row.get, List.lookup_cons, List.lookup_cons]
      -- the first column of the name is the one that counts
      cases secretColumn == name with
      | true => exact .inl rfl
      | false => exact ih

theorem required (same : r.SameButSecret r') (read : Value → Option α)
    (other : name ≠ secretColumn) : Row.required read r' name = Row.required read r name := by
  rw [Row.required, Row.required, same.get other]

theorem json (same : r.SameButSecret r') (other : name ≠ secretColumn) :
    r'.json name = r.json name := by
  rw [Row.json, Row.json, same.get other]

/-- A secret reads in both rows or in neither. -/
theorem text_secret (same : r.SameButSecret r') :
    EndsAlike (fun _ _ => True) (r.text secretColumn) (r'.text secretColumn) := by
  rw [Row.text, Row.required, Row.required]
  rcases same.get_secret with equal | ⟨s, s', held, held'⟩
  · rw [equal]
    cases (r.get secretColumn).text? with
    | none => exact .error _
    | some s => exact .ok trivial
  · rw [held, held']
    exact .ok trivial

end SameButSecret

end Row

/-! ## Records -/

namespace WebhookRecord

variable {r r' : Row} {w w' : WebhookRecord}

/-- The webhooks are the same but for their secrets. -/
def SameButSecret (w w' : WebhookRecord) : Prop := ∃ secret, w' = { w with secret }

/-- The rows hold the same webhook but for its secret, or do not read for the same reason. -/
theorem ofRow_endsAlike (same : r.SameButSecret r') :
    EndsAlike SameButSecret (ofRow r) (ofRow r') := by
  have column {α : Type} (read : Value → Option α) (name : String)
      (other : name ≠ secretColumn) : Row.required read r' name = Row.required read r name :=
    same.required read other
  refine .bind_same (column _ "id" (by decide)) fun id => ?_
  refine .bind_same (column _ "tenant_id" (by decide)) fun tenantId => ?_
  refine .bind_same (column _ "name" (by decide)) fun name => ?_
  refine .bind_same (column _ "url" (by decide)) fun url => ?_
  refine same.text_secret.bind fun {secret secret'} _ => ?_
  refine .bind_same (column _ "enabled" (by decide)) fun enabled => ?_
  refine .bind_same (column _ "failure_count" (by decide)) fun failureCount => ?_
  refine .bind_same (column _ "created_at" (by decide)) fun createdAt => ?_
  refine .bind_same (column _ "updated_at" (by decide)) fun updatedAt => ?_
  refine .ok ⟨secret', ?_⟩
  rw [same.json (by decide), same.get (by decide)]

/-- The document of a webhook is the same whatever its secret. -/
theorem SameButSecret.json_eq (same : w.SameButSecret w') : w.json = w'.json := by
  obtain ⟨secret, rfl⟩ := same
  exact (w.json_secret secret).symm

/-- The documents of rows that differ in their secrets are the same. -/
theorem map_json_ofRow (same : r.SameButSecret r') : (ofRow r).map json = (ofRow r').map json :=
  (ofRow_endsAlike same).map_eq SameButSecret.json_eq

end WebhookRecord

/-- A delivery has no secret, so the rows hold the same one. -/
theorem QueueEntry.ofRow_eq {r r' : Row} (same : r.SameButSecret r') : ofRow r' = ofRow r := by
  simp (disch := decide) only [ofRow, Row.int, Row.text, Row.time, same.required, same.json,
    same.get]

/-! ## Replies -/

namespace StoreReply

/-- The replies are the same but for the secrets of the rows that they return. -/
inductive SameButSecrets : StoreReply → StoreReply → Prop
  | rows {found found' : List Row} (same : List.Forall₂ Row.SameButSecret found found') :
      SameButSecrets (.rows found) (.rows found')
  | affected (count : Nat) : SameButSecrets (.affected count) (.affected count)
  | failed (error : DbError) : SameButSecrets (.failed error) (.failed error)

namespace SameButSecrets

variable {reply reply' : StoreReply}

theorem refl (reply : StoreReply) : reply.SameButSecrets reply := by
  cases reply with
  | rows found => exact .rows (List.forall₂_same.mpr fun r _ => .refl r)
  | affected count => exact .affected count
  | failed error => exact .failed error

/-- As many rows were affected. -/
theorem affected_eq (same : reply.SameButSecrets reply') : reply.affected? = reply'.affected? := by
  cases same with
  | rows same => exact congrArg Except.ok same.length_eq
  | affected | failed => rfl

theorem anyAffected_eq (same : reply.SameButSecrets reply') :
    reply.anyAffected = reply'.anyAffected := by
  rw [anyAffected, anyAffected, same.affected_eq]

theorem ran_eq (same : reply.SameButSecrets reply') : reply.ran = reply'.ran := by
  rw [ran, ran, same.affected_eq]

/-- The same deliveries were returned. -/
theorem entries_eq (same : reply.SameButSecrets reply') :
    reply.all QueueEntry.ofRow = reply'.all QueueEntry.ofRow := by
  cases same with
  | affected | failed => rfl
  | @rows found found' same =>
    have read : readAll QueueEntry.ofRow found = readAll QueueEntry.ofRow found' := by
      induction same with
      | nil => rfl
      | cons first _ ih => simp only [readAll, QueueEntry.ofRow_eq first, ih]
    exact read

/-- The same webhook was returned but for its secret, if one was. -/
theorem webhook_endsAlike (same : reply.SameButSecrets reply') :
    EndsAlike (Option.Rel WebhookRecord.SameButSecret) (reply.first? WebhookRecord.ofRow)
      (reply'.first? WebhookRecord.ofRow) := by
  cases same with
  | affected => exact .ok .none
  | failed error => exact .error error
  | rows same =>
    cases same with
    | nil => exact .ok .none
    | cons first _ => exact (WebhookRecord.ofRow_endsAlike first).map .some

end SameButSecrets

end StoreReply

end AlertRelay
