import Mathlib.Data.List.Nodup
import Mathlib.Data.List.Perm.Basic
import TypedJsx.Json.Record
/-!
Decoding what was encoded. A value that was encoded, written and read again is the same value but for where
it stands in the text, and the members of its objects may have changed their order (`Json.Same`). A decoder
restores a value from its encoding if it gives it back from everything that is the same (`Restores`).

Main statement: a record is read from an object that gives each of its fields once and leaves out only what
is not required, and every field is then found with the value that was given for it
(`JsonRecord.read_restores`).
-/
namespace TypedJsx

/-! ## Values that are the same -/

mutual

/-- Whether two values are the same but for where they stand and the order of the members of objects. -/
def Json.Same : Json → Json → Prop
  | .null _, .null _ => True
  | .bool value _, .bool value' _ => value = value'
  | .number value _, .number value' _ => value = value'
  | .string value _, .string value' _ => value = value'
  | .array items _, .array items' _ => sameItems items items'
  | .object members _, .object members' _ => sameMembers members members'
  | .unreadable flaw _, .unreadable flaw' _ => flaw = flaw'
  | .broken flaw _, .broken flaw' _ => flaw = flaw'
  | _, _ => False

/-- Whether two lists have the same items. -/
def sameItems : List Json → List Json → Prop
  | [], [] => True
  | j :: rest, j' :: rest' => j.Same j' ∧ sameItems rest rest'
  | _, _ => False

/-- Whether two objects have the same members, in any order. -/
def sameMembers : List (JsonKey × Json) → List (JsonKey × Json) → Prop
  | [], members => members = []
  | (k, j) :: rest, members => ∃ k' j' rest', members.Perm ((k', j') :: rest')
      ∧ k'.text = k.text ∧ j.Same j' ∧ sameMembers rest rest'

end

mutual

theorem Json.Same.refl : ∀ j : Json, j.Same j
  | .null _ | .bool _ _ | .number _ _ | .string _ _ | .unreadable _ _ | .broken _ _ => by simp [Json.Same]
  | .array items _ => by rw [Json.Same]; exact sameItems_refl items
  | .object members _ => by rw [Json.Same]; exact sameMembers_refl members

theorem sameItems_refl : ∀ items : List Json, sameItems items items
  | [] => trivial
  | j :: rest => ⟨Json.Same.refl j, sameItems_refl rest⟩

theorem sameMembers_refl : ∀ members : List (JsonKey × Json), sameMembers members members
  | [] => rfl
  | (k, j) :: rest => ⟨k, j, rest, .refl _, rfl, Json.Same.refl j, sameMembers_refl rest⟩

end

section
variable {given : List (String × Json)} {members : List (JsonKey × Json)} {e : Extent}

theorem Json.Same.keys (h : (Json.ofMembers given).Same (.object members e)) :
    (members.map fun m => m.1.text).Perm (given.map Prod.fst) := by
  induction given generalizing members with
  | nil =>
    obtain rfl : members = [] := h
    exact .refl _
  | cons m rest ih =>
    obtain ⟨k', j', rest', perm, key, -, inner⟩ := h
    have keys := perm.map fun m => m.1.text
    rw [List.map_cons, key] at keys
    exact keys.trans ((ih inner).cons _)

theorem Json.Same.exists_member (h : (Json.ofMembers given).Same (.object members e))
    {g : String × Json} (mem : g ∈ given) : ∃ m ∈ members, m.1.text = g.1 ∧ g.2.Same m.2 := by
  induction given generalizing members with
  | nil => cases mem
  | cons first rest ih =>
    obtain ⟨k', j', rest', perm, key, same, inner⟩ := h
    rcases List.mem_cons.mp mem with rfl | later
    · exact ⟨(k', j'), perm.mem_iff.mpr List.mem_cons_self, key, same⟩
    · obtain ⟨m, mem', found⟩ := ih inner later
      exact ⟨m, perm.mem_iff.mpr (List.mem_cons_of_mem _ mem'), found⟩

theorem Json.Same.exists_given (h : (Json.ofMembers given).Same (.object members e))
    (distinct : (given.map Prod.fst).Nodup) {m : JsonKey × Json} (mem : m ∈ members) :
    ∃ g ∈ given, g.1 = m.1.text ∧ g.2.Same m.2 := by
  obtain ⟨g, hg, name⟩ := List.mem_map.mp (h.keys.mem_iff.mp (List.mem_map_of_mem mem))
  obtain ⟨m', mem', name', same⟩ := h.exists_member hg
  -- no other member has the same key
  obtain rfl : m' = m :=
    List.inj_on_of_nodup_map (h.keys.nodup_iff.mpr distinct) mem' mem (name'.trans name)
  exact ⟨g, hg, name, same⟩

end

/-! ## Decoders that restore a value -/

/-- A decoder gives a value back from everything that is the same as its encoding. -/
def Restores {α : Type} (decode : Decode α) (encoded : Json) (a : α) : Prop :=
  ∀ j, encoded.Same j → decode j = .ok a

section
variable {α : Type}

/-- A decoder undoes the encoding of a value: it gives it back from the encoding, and from everything that is
the same. -/
def Undoes (decode : Decode α) (encode : α → Json) (a : α) : Prop :=
  decode (encode a) = .ok a ∧ Restores decode (encode a) a

theorem Restores.undoes {decode : Decode α} {encode : α → Json} {a : α}
    (h : Restores decode (encode a) a) : Undoes decode encode a :=
  ⟨h (encode a) (.refl (encode a)), h⟩

theorem restores_asString (s : String) : Restores Json.asString (.string s) s := by
  intro j same
  cases j <;> simp_all [Json.Same, Json.asString]

theorem restores_asBool (b : Bool) : Restores Json.asBool (.bool b) b := by
  intro j same
  cases j <;> simp_all [Json.Same, Json.asBool]

theorem restores_asWord32 {n : Nat} (h : n < Nat.pow 2 32) : Restores Json.asWord32 (.ofNat n) n := by
  intro j same
  cases j with
  | number value e =>
    obtain rfl : .whole n = value := same
    have small : (n : Int) < 4294967296 := Int.ofNat_lt.mpr h
    simp [Json.asWord32, small]
  | _ => exact same.elim

theorem restores_asOption {item : Decode α} {s : String} {a : α} (h : Restores item (.string s) a) :
    Restores (Json.asOption item) (.string s) (some a) := by
  intro j same
  have restored := h j same
  cases j with
  | string value e => simp [Json.asOption, restored]
  | _ => exact same.elim

theorem restores_asVariant {variants : List (String × α)} {name : String} {a : α}
    (h : variants.lookup name = some a) : Restores (Json.asVariant variants) (.string name) a := by
  intro j same
  cases j with
  | string value e =>
    obtain rfl : name = value := same
    simp [Json.asVariant, h]
  | _ => exact same.elim

theorem asItems_of_sameItems {item : Decode α} {encode : α → Json} {as : List α}
    (h : ∀ a ∈ as, Restores item (encode a) a) {items : List Json}
    (same : sameItems (as.map encode) items) : Json.asItems item items = .ok as := by
  induction as generalizing items with
  | nil =>
    cases items with
    | nil => rfl
    | cons j rest => exact same.elim
  | cons a as ih =>
    cases items with
    | nil => exact same.elim
    | cons j rest =>
      rw [List.forall_mem_cons] at h
      obtain ⟨first, later⟩ := same
      simp [Json.asItems, h.1 j first, ih h.2 later]
      rfl

theorem restores_asList {item : Decode α} {encode : α → Json} {as : List α}
    (h : ∀ a ∈ as, Restores item (encode a) a) :
    Restores (Json.asList item) (.array (as.map encode)) as := by
  intro j same
  cases j with
  | array items e => exact asItems_of_sameItems h same
  | _ => exact same.elim

theorem restores_asStrings (texts : List String) :
    Restores (Json.asList Json.asString) (.ofStrings texts) texts :=
  restores_asList fun s _ => restores_asString s

end

/-! ## Records -/

theorem ok_bind {ε α β : Type} (a : α) (f : α → Except ε β) : (Except.ok a >>= f) = f a := rfl

/-- The members of an object fill fields in their order; a field that is not required may be left out. -/
inductive Fills : List JsonField → List (String × Json) → Prop
  | nil : Fills [] []
  | given {α : Type} {decode : Decode α} {name : String} {isRequired : Bool} {j : Json} {a : α}
      {fields : List JsonField} {members : List (String × Json)} (restores : Restores decode j a)
      (rest : Fills fields members) :
      Fills (⟨name, isRequired, fun j => do let _ ← decode j⟩ :: fields) ((name, j) :: members)
  | omitted {α : Type} {decode : Decode α} {name : String} {fields : List JsonField}
      {members : List (String × Json)} (rest : Fills fields members) :
      Fills (.optional name decode :: fields) members

section
variable {fields : List JsonField} {given : List (String × Json)}

theorem Fills.sublist (h : Fills fields given) :
    (given.map Prod.fst).Sublist (fields.map JsonField.name) := by
  induction h with
  | nil => exact .refl _
  | given _ _ ih => exact ih.cons_cons _
  | omitted _ ih => exact ih.cons _

theorem Fills.exists_field (h : Fills fields given) {m : String × Json} (mem : m ∈ given) :
    ∃ f ∈ fields, f.name = m.1 ∧ ∀ j, m.2.Same j → f.check j = .ok () := by
  induction h with
  | nil => cases mem
  | given restores _ ih =>
    rcases List.mem_cons.mp mem with rfl | later
    · refine ⟨_, List.mem_cons_self, rfl, fun j same => ?_⟩
      simp only [restores j same]
      rfl
    · obtain ⟨f, hf, found⟩ := ih later
      exact ⟨f, List.mem_cons_of_mem _ hf, found⟩
  | omitted _ ih =>
    obtain ⟨f, hf, found⟩ := ih mem
    exact ⟨f, List.mem_cons_of_mem _ hf, found⟩

theorem Fills.mem_of_required (h : Fills fields given) {f : JsonField} (mem : f ∈ fields)
    (required : f.isRequired = true) : f.name ∈ given.map Prod.fst := by
  induction h with
  | nil => cases mem
  | given _ _ ih =>
    rcases List.mem_cons.mp mem with rfl | later
    · exact List.mem_cons_self
    · exact List.mem_cons_of_mem _ (ih later)
  | omitted _ ih =>
    rcases List.mem_cons.mp mem with rfl | later
    · cases required
    · exact ih later

theorem find?_field (distinct : (fields.map JsonField.name).Nodup) {f : JsonField} (mem : f ∈ fields) :
    (fields.find? fun g => g.name == f.name) = some f := by
  cases found : fields.find? fun g => g.name == f.name with
  | none => simpa using List.find?_eq_none.mp found f mem
  | some g =>
    have name : g.name = f.name := by simpa using List.find?_some found
    rw [List.inj_on_of_nodup_map distinct (List.mem_of_find?_eq_some found) mem name]

/-- The members of an object as a record. -/
def recordOf (members : List (JsonKey × Json)) : JsonRecord := members.map fun m => (m.1.text, m.2)

theorem keys_recordOf (members : List (JsonKey × Json)) :
    (recordOf members).map Prod.fst = members.map fun m => m.1.text := by
  rw [recordOf, List.map_map]
  rfl

/-- Members of distinct known keys that pass the checks are all read. -/
theorem JsonRecord.ofMembers_eq {seen : List String} {members : List (JsonKey × Json)}
    (known : ∀ m ∈ members, ∃ f, (fields.find? fun f => f.name == m.1.text) = some f
      ∧ f.check m.2 = .ok ())
    (distinct : (members.map fun m => m.1.text).Nodup) (fresh : ∀ m ∈ members, m.1.text ∉ seen) :
    JsonRecord.ofMembers fields seen members = .ok (recordOf members) := by
  induction members generalizing seen with
  | nil => rfl
  | cons m rest ih =>
    obtain ⟨k, j⟩ := m
    rw [List.forall_mem_cons] at known fresh
    rw [List.map_cons, List.nodup_cons] at distinct
    obtain ⟨f, found, check⟩ := known.1
    have name : f.name = k.text := by simpa using List.find?_some found
    have unseen : seen.contains k.text = false := by simpa using fresh.1
    have later : ∀ m ∈ rest, m.1.text ∉ k.text :: seen := by
      intro m hm
      rw [List.mem_cons, not_or]
      exact ⟨fun e => distinct.1 (e ▸ List.mem_map_of_mem hm), fresh.2 m hm⟩
    simp only [JsonRecord.ofMembers, found, name, unseen, check, ih known.2 distinct.2 later]
    rfl

theorem JsonRecord.complete_eq {stop : Nat} {r : JsonRecord}
    (required : ∀ f ∈ fields, f.isRequired = true → f.name ∈ r.map Prod.fst) :
    JsonRecord.complete fields stop r = .ok r := by
  have none : (fields.find? fun f => f.isRequired && !(r.any fun p => p.1 == f.name)) = none := by
    rw [List.find?_eq_none]
    intro f hf missing
    rw [Bool.and_eq_true, Bool.not_eq_true', List.any_eq_false] at missing
    obtain ⟨p, hp, name⟩ := List.mem_map.mp (required f hf missing.1)
    exact missing.2 p hp (beq_iff_eq.mpr name)
  rw [JsonRecord.complete, none]

theorem lookup_of_mem {r : JsonRecord} (distinct : (r.map Prod.fst).Nodup) {name : String} {j : Json}
    (mem : (name, j) ∈ r) : r.lookup name = some j := by
  obtain ⟨before, after, rfl⟩ := List.append_of_mem mem
  rw [List.map_append, List.nodup_append] at distinct
  refine List.lookup_eq_some_iff.mpr ⟨before, after, rfl, fun p hp => ?_⟩
  exact bne_iff_ne.mpr (distinct.2.2 p.1 (List.mem_map_of_mem hp) name (by simp)).symm

/-- A record has a value for each member that is given, the same as it, and no others. -/
structure JsonRecord.Gives (r : JsonRecord) (given : List (String × Json)) : Prop where
  some : ∀ g ∈ given, ∃ j, r.lookup g.1 = .some j ∧ g.2.Same j
  none : ∀ name, name ∉ given.map Prod.fst → r.lookup name = .none

theorem Json.Same.gives {members : List (JsonKey × Json)} {e : Extent}
    (h : (Json.ofMembers given).Same (.object members e)) (distinct : (given.map Prod.fst).Nodup) :
    (recordOf members).Gives given where
  some g hg := by
    obtain ⟨m, hm, name, same⟩ := h.exists_member hg
    have once : ((recordOf members).map Prod.fst).Nodup := by
      rw [keys_recordOf]
      exact h.keys.nodup_iff.mpr distinct
    exact ⟨m.2, lookup_of_mem once (List.mem_map.mpr ⟨m, hm, Prod.ext name rfl⟩), same⟩
  none name omitted := by
    rw [← h.keys.mem_iff, ← keys_recordOf] at omitted
    rw [List.lookup_eq_none_iff]
    intro p hp
    exact bne_iff_ne.mpr fun e => omitted (e ▸ List.mem_map_of_mem hp)

/-- A record is read from every object that is the same as one that fills its fields. -/
theorem JsonRecord.read_restores (what : String) (distinct : (fields.map JsonField.name).Nodup)
    (fills : Fills fields given) {j : Json} (same : (Json.ofMembers given).Same j) :
    ∃ r, JsonRecord.read what fields j = .ok r ∧ r.Gives given := by
  cases j with
  | object members e =>
    have once : (given.map Prod.fst).Nodup := distinct.sublist fills.sublist
    -- a member passes the check of the field that has its name, as the one that was given does
    have known : ∀ m ∈ members, ∃ f, (fields.find? fun f => f.name == m.1.text) = some f
        ∧ f.check m.2 = .ok () := by
      intro m hm
      obtain ⟨g, hg, name, same⟩ := same.exists_given once hm
      obtain ⟨f, hf, name', check⟩ := fills.exists_field hg
      refine ⟨f, ?_, check m.2 same⟩
      rw [← name, ← name']
      exact find?_field distinct hf
    have required : ∀ f ∈ fields, f.isRequired = true → f.name ∈ (recordOf members).map Prod.fst := by
      intro f hf isRequired
      rw [keys_recordOf]
      exact same.keys.mem_iff.mpr (fills.mem_of_required hf isRequired)
    refine ⟨recordOf members, ?_, same.gives once⟩
    rw [JsonRecord.read, JsonRecord.ofMembers_eq known (same.keys.nodup_iff.mpr once) (by simp)]
    exact JsonRecord.complete_eq required
  | _ => exact same.elim

theorem JsonRecord.Gives.get {r : JsonRecord} (h : r.Gives given) {α : Type} {decode : Decode α}
    {name : String} {j : Json} {a : α} (mem : (name, j) ∈ given) (restores : Restores decode j a) :
    r.get name decode = .ok a := by
  obtain ⟨j', found, same⟩ := h.some _ mem
  rw [JsonRecord.get, found]
  exact restores j' same

theorem JsonRecord.Gives.getD {r : JsonRecord} (h : r.Gives given) {α : Type} {decode : Decode α}
    {name : String} {j : Json} {a : α} (mem : (name, j) ∈ given) (restores : Restores decode j a)
    (default : α) : r.getD name decode default = .ok a := by
  obtain ⟨j', found, same⟩ := h.some _ mem
  rw [JsonRecord.getD, found]
  exact restores j' same

theorem JsonRecord.Gives.getD_omitted {r : JsonRecord} (h : r.Gives given) {α : Type} {decode : Decode α}
    {name : String} (omitted : name ∉ given.map Prod.fst) (default : α) :
    r.getD name decode default = .ok default := by
  rw [JsonRecord.getD, h.none name omitted]

end

/-! ## Fields that are left out -/

/-- The members for a field that is left out when its value is the default. -/
inductive MayOmit {α : Type} (name : String) (decode : Decode α) (default : α) :
    α → List (String × Json) → Prop
  | omitted : MayOmit name decode default default []
  | given {j : Json} {a : α} (restores : Restores decode j a) : MayOmit name decode default a [(name, j)]

section
variable {α : Type} {name : String} {decode : Decode α} {default a : α} {extra : List (String × Json)}

theorem MayOmit.fills (h : MayOmit name decode default a extra) {fields : List JsonField}
    {given : List (String × Json)} (rest : Fills fields given) :
    Fills (.optional name decode :: fields) (extra ++ given) := by
  cases h with
  | omitted => exact .omitted rest
  | given restores => exact .given restores rest

theorem MayOmit.getD (h : MayOmit name decode default a extra) {r : JsonRecord}
    (before after : List (String × Json)) (gives : r.Gives (before ++ (extra ++ after)))
    (apart : name ∉ (before ++ after).map Prod.fst) : r.getD name decode default = .ok a := by
  cases h with
  | omitted => exact gives.getD_omitted apart default
  | given restores => exact gives.getD (by simp) restores default

end

end TypedJsx
