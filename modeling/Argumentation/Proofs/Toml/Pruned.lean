import Argumentation.Toml.Reader

/-!
# Documents with fields left out

Fields are left out of a document by the names that lead to them (`prune`).  A table that is left
out takes all its fields with it.  Two documents say the same if they differ only in the order of
their fields and in how their tables are written (`Same`).

A reader that asks a table for a field gets one of two things from what is left of the table: what
is left of the field, or nothing if the field is left out (`Remain.fieldOf_cases`).
-/

namespace Argumentation.Toml

/-! ## Fields that are left out -/

mutual

/-- A value without the fields whose names, behind those that lead to the value, are gone. -/
def prune (gone : List String → Bool) (path : List String) : Toml → Toml
  | .table origin fields => .table origin (pruneFields gone path fields)
  | v => v

/-- Fields without those whose names, behind those that lead to the fields, are gone. -/
def pruneFields (gone : List String → Bool) (path : List String) :
    List (String × Toml) → List (String × Toml)
  | [] => []
  | f :: fs =>
    if gone (path ++ [f.1]) then pruneFields gone path fs
    else (f.1, prune gone (path ++ [f.1]) f.2) :: pruneFields gone path fs

end

variable {gone : List String → Bool} {path : List String} {name : String} {v w : Toml}
  {fields fields' : List (String × Toml)} {origin : Origin}

theorem fieldOf_pruneFields (fields : List (String × Toml)) (name : String) :
    fieldOf (pruneFields gone path fields) name =
      if gone (path ++ [name]) then none
      else (fieldOf fields name).map (prune gone (path ++ [name])) := by
  induction fields with
  | nil => simp [pruneFields, fieldOf]
  | cons f fs ih =>
    by_cases hname : f.1 = name
    · subst hname
      by_cases hgone : gone (path ++ [f.1]) = true
      · rw [pruneFields, if_pos hgone, ih, if_pos hgone, if_pos hgone]
      · simp [pruneFields, hgone, fieldOf]
    · have hcons (v : Toml) (fields : List (String × Toml)) :
          fieldOf ((f.1, v) :: fields) name = fieldOf fields name := by
        simp [fieldOf, hname]
      rw [hcons f.2 fs, ← ih, pruneFields]
      split
      · rfl
      · exact hcons _ _

/-! ## Values that say the same -/

/-- Whether two values differ only in the order of the fields of tables and in how the tables came
to be. -/
inductive Same : Toml → Toml → Prop
  /-- They do not differ. -/
  | refl (v : Toml) : Same v v
  /-- Two tables have the same under each name. -/
  | table {origin origin' : Origin} {fields fields' : List (String × Toml)} :
    (∀ name, Option.Rel Same (fieldOf fields name) (fieldOf fields' name)) →
      Same (.table origin fields) (.table origin' fields')

/-- Fields that say what is left of others. -/
def Remain (gone : List String → Bool) (path : List String)
    (fields fields' : List (String × Toml)) : Prop :=
  ∀ name, Option.Rel Same (fieldOf fields' name) (fieldOf (pruneFields gone path fields) name)

/-- A single value is left as it is. -/
theorem Same.eq_of_single (same : Same w (prune gone path v))
    (single : ∀ origin fields, v ≠ .table origin fields) : w = v := by
  rw [prune] at same
  · cases same with
    | refl => rfl
    | table => exact absurd rfl (single _ _)
  · exact single

/-- What is left of a table is a table. -/
theorem Same.exists_remain (same : Same w (prune gone path (.table origin fields))) :
    ∃ origin' fields', w = .table origin' fields' ∧ Remain gone path fields fields' := by
  cases same with
  | refl =>
    refine ⟨origin, pruneFields gone path fields, by rw [prune], fun name => ?_⟩
    cases fieldOf (pruneFields gone path fields) name with
    | none => exact .none
    | some v => exact .some (.refl v)
  | table h => exact ⟨_, _, rfl, h⟩

/-- A field of a table is left out, or what is left of it is there. -/
theorem Remain.fieldOf_cases (remain : Remain gone path fields fields')
    (hv : fieldOf fields name = some v) :
    gone (path ++ [name]) = true ∧ fieldOf fields' name = none ∨
      gone (path ++ [name]) = false ∧
        ∃ w, fieldOf fields' name = some w ∧ Same w (prune gone (path ++ [name]) v) := by
  have hrel := remain name
  rw [fieldOf_pruneFields, hv] at hrel
  cases hgone : gone (path ++ [name]) with
  | true =>
    rw [if_pos hgone] at hrel
    cases hleft : fieldOf fields' name with
    | none => exact .inl ⟨rfl, rfl⟩
    | some w =>
      rw [hleft] at hrel
      cases hrel
  | false =>
    rw [if_neg (ne_true_of_eq_false hgone), Option.map_some] at hrel
    cases hleft : fieldOf fields' name with
    | none =>
      rw [hleft] at hrel
      cases hrel
    | some w =>
      rw [hleft] at hrel
      cases hrel with
      | some same => exact .inr ⟨rfl, w, rfl, same⟩

variable {α : Type} {read : Toml → Option α} {result : Option α}

/-- A field that is left out is taken from elsewhere. -/
theorem Remain.orElse_eq (remain : Remain gone path fields fields')
    (hv : fieldOf fields name = some v) (standard : α)
    (hread : ∀ w, Same w (prune gone (path ++ [name]) v) → read w = result) :
    orElse standard read (fieldOf fields' name) =
      if gone (path ++ [name]) then some standard else result := by
  rcases remain.fieldOf_cases hv with ⟨hgone, hleft⟩ | ⟨hgone, w, hleft, same⟩
  · rw [hleft, if_pos hgone, orElse]
  · rw [hleft, if_neg (ne_true_of_eq_false hgone), orElse, hread w same]

/-- A field that has to be there is missed. -/
theorem Remain.required_eq (remain : Remain gone path fields fields')
    (hv : fieldOf fields name = some v)
    (hread : ∀ w, Same w (prune gone (path ++ [name]) v) → read w = result) :
    required read (fieldOf fields' name) =
      if gone (path ++ [name]) then none else result := by
  rcases remain.fieldOf_cases hv with ⟨hgone, hleft⟩ | ⟨hgone, w, hleft, same⟩
  · rw [hleft, if_pos hgone, required]
  · rw [hleft, if_neg (ne_true_of_eq_false hgone), required, hread w same]

/-! ## Documents at hand -/

mutual

/-- Whether two values without lists are the same up to how their tables came to be. -/
def isSame : Toml → Toml → Bool
  | .text s, .text t => s = t
  | .integer m, .integer n => m = n
  | .float x, .float y => x = y
  | .bool a, .bool b => a = b
  | .time s, .time t => s = t
  | .table _ fields, .table _ fields' => areSame fields fields'
  | _, _ => false

/-- Whether fields without lists are the same up to how the tables among them came to be. -/
def areSame : List (String × Toml) → List (String × Toml) → Bool
  | [], [] => true
  | f :: fs, g :: gs => f.1 = g.1 && isSame f.2 g.2 && areSame fs gs
  | _, _ => false

end

mutual

theorem same_of_isSame : ∀ {v w : Toml}, isSame v w = true → Same v w
  | .text _, w, h | .integer _, w, h | .float _, w, h | .bool _, w, h | .time _, w, h => by
    cases w <;> simp [isSame] at h
    exact h ▸ .refl _
  | .array _, w, h | .tables _, w, h => by cases w <;> simp [isSame] at h
  | .table _ _, w, h => by
    cases w <;> simp [isSame] at h
    exact .table (rel_of_areSame h)

theorem rel_of_areSame : ∀ {fields fields' : List (String × Toml)}, areSame fields fields' = true →
    ∀ name, Option.Rel Same (fieldOf fields name) (fieldOf fields' name)
  | [], [], _, _ => .none
  | f :: fs, g :: gs, h, name => by
    simp only [areSame, Bool.and_eq_true, decide_eq_true_eq] at h
    obtain ⟨⟨hname, hv⟩, hrest⟩ := h
    by_cases hf : f.1 = name
    · have hg : g.1 = name := hname ▸ hf
      simpa [fieldOf, hf, hg] using Option.Rel.some (same_of_isSame hv)
    · have hg : g.1 ≠ name := hname ▸ hf
      simpa [fieldOf, hf, hg] using rel_of_areSame hrest name

end

/-- What a text says is found by going through its fields in their order. -/
theorem exists_same_of_isSame {s : String}
    (h : (parse? s).any (fun fields => isSame (.table .header fields) v) = true) :
    ∃ fields, parse? s = some fields ∧ Same (.table .header fields) v := by
  obtain ⟨fields, parsed, hsame⟩ := (Option.any_eq_true _ _).1 h
  exact ⟨fields, parsed, same_of_isSame hsame⟩

end Argumentation.Toml
