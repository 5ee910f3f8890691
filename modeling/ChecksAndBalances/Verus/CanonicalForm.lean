import ChecksAndBalances.Verus.Encoding
import Mathlib.Data.List.Lex

/-!
# The canonical form of a value

The canonical text of a value is the `JSON.stringify` of its canonical form: strings and keys
normalized, and members in the order of the keys before their normalization.  `reread` is what
`JSON.parse` makes of such a text.  The canonical text is its own canonical text again exactly when
the canonical form has its members in strict order.
-/

namespace ChecksAndBalances

/-! ## The order of keys -/

theorem codeUnitsLt_iff {as bs : List ℕ} : codeUnitsLt as bs = true ↔ as < bs := by
  induction as generalizing bs with
  | nil => cases bs <;> simp [codeUnitsLt]
  | cons a as ih =>
    cases bs with
    | nil => simp [codeUnitsLt]
    | cons b bs => simp [codeUnitsLt, ih, List.cons_lt_cons_iff]

/-- `left < right` on keys. -/
def KeyLt (left right : String) : Prop := codeUnitsLt (utf16 left) (utf16 right) = true

instance (left right : String) : Decidable (KeyLt left right) :=
  inferInstanceAs (Decidable (_ = true))

theorem keyLt_iff {a b : String} : KeyLt a b ↔ utf16 a < utf16 b := codeUnitsLt_iff

theorem not_keyLt_self (a : String) : ¬ KeyLt a a := by
  rw [keyLt_iff]
  exact lt_irrefl _

theorem KeyLt.ne {a b : String} (h : KeyLt a b) : a ≠ b := by
  rintro rfl
  exact not_keyLt_self a h

theorem utf16Char_append_inj {c d : Char} {x y : List ℕ}
    (h : utf16Char c ++ x = utf16Char d ++ y) : c = d ∧ x = y := by
  have hc := c.valid
  have hd := d.valid
  simp only [UInt32.isValidChar, Nat.isValidChar] at hc hd
  have hcn : c.toNat = c.val.toNat := rfl
  have hdn : d.toNat = d.val.toNat := rfl
  have heq : c.toNat = d.toNat → c = d := fun h => Char.ext (UInt32.toNat_inj.1 h)
  unfold utf16Char at h
  split_ifs at h with h1 h2 h2
  · obtain ⟨hhead, htail⟩ := List.cons.inj h
    exact ⟨heq hhead, htail⟩
  · -- A single unit is no surrogate.
    obtain ⟨hhead, -⟩ := List.cons.inj h
    omega
  · obtain ⟨hhead, -⟩ := List.cons.inj h
    omega
  · obtain ⟨hhigh, hrest⟩ := List.cons.inj h
    obtain ⟨hlow, htail⟩ := List.cons.inj hrest
    exact ⟨heq (by omega), htail⟩

theorem utf16_injective {a b : String} (h : utf16 a = utf16 b) : a = b := by
  have hchars : ∀ as bs : List Char, as.flatMap utf16Char = bs.flatMap utf16Char → as = bs := by
    have hne : ∀ c : Char, utf16Char c ≠ [] := by
      intro c
      unfold utf16Char
      split_ifs <;> exact List.cons_ne_nil _ _
    intro as
    induction as with
    | nil =>
      intro bs hbs
      cases bs with
      | nil => rfl
      | cons b bs =>
        rw [List.flatMap_nil, List.flatMap_cons] at hbs
        exact absurd (List.append_eq_nil_iff.1 hbs.symm).1 (hne b)
    | cons a as ih =>
      intro bs hbs
      cases bs with
      | nil =>
        rw [List.flatMap_nil, List.flatMap_cons] at hbs
        exact absurd (List.append_eq_nil_iff.1 hbs).1 (hne a)
      | cons b bs =>
        rw [List.flatMap_cons, List.flatMap_cons] at hbs
        obtain ⟨rfl, hrest⟩ := utf16Char_append_inj hbs
        rw [ih bs hrest]
  exact String.toList_inj.1 (hchars _ _ h)

/-! ## Members in order -/

section Members

variable {α β : Type}

/-- The members by the order of their keys; members of one key keep their order. -/
def sortMembers (members : List (String × α)) : List (String × α) :=
  members.insertionSort fun a b => codeUnitsLt (utf16 b.1) (utf16 a.1) = false

/-- The keys are in strict order. -/
def StrictKeys (members : List (String × α)) : Prop :=
  members.Pairwise fun a b => KeyLt a.1 b.1

/-- The values under a function. -/
def mapValues (f : α → β) (members : List (String × α)) : List (String × β) :=
  members.map fun m => (m.1, f m.2)

theorem not_keyLt_iff {a b : String} :
    codeUnitsLt (utf16 b) (utf16 a) = false ↔ utf16 a ≤ utf16 b := by
  rw [← Bool.not_eq_true, codeUnitsLt_iff]
  exact not_lt

theorem sortMembers_perm (members : List (String × α)) : (sortMembers members).Perm members :=
  List.perm_insertionSort _ _

theorem sortMembers_mapValues (f : α → β) (members : List (String × α)) :
    sortMembers (mapValues f members) = mapValues f (sortMembers members) := by
  unfold sortMembers mapValues
  rw [List.map_insertionSort (fun a b : String × α => codeUnitsLt (utf16 b.1) (utf16 a.1) = false)
    (fun a b : String × β => codeUnitsLt (utf16 b.1) (utf16 a.1) = false)]
  exact fun _ _ _ _ => Iff.rfl

theorem sortMembers_pairwise (members : List (String × α)) :
    (sortMembers members).Pairwise fun a b => utf16 a.1 ≤ utf16 b.1 := by
  have htotal : Std.Total fun a b : String × α => codeUnitsLt (utf16 b.1) (utf16 a.1) = false :=
    ⟨fun a b => by simpa only [not_keyLt_iff] using le_total _ _⟩
  have htrans : IsTrans (String × α) fun a b => codeUnitsLt (utf16 b.1) (utf16 a.1) = false :=
    ⟨fun a b c => by simpa only [not_keyLt_iff] using le_trans⟩
  exact (List.pairwise_insertionSort _ members).imp fun h => not_keyLt_iff.1 h

theorem StrictKeys.mapValues {members : List (String × α)} (h : StrictKeys members) (f : α → β) :
    StrictKeys (mapValues f members) :=
  List.pairwise_map.2 h

theorem StrictKeys.nodup {members : List (String × α)} (h : StrictKeys members) :
    (members.map Prod.fst).Nodup :=
  List.pairwise_map.2 (h.imp KeyLt.ne)

/-- Members with different keys are put in strict order. -/
theorem strictKeys_sortMembers {members : List (String × α)} (h : (members.map Prod.fst).Nodup) :
    StrictKeys (sortMembers members) := by
  have hnodup : ((sortMembers members).map Prod.fst).Nodup :=
    ((sortMembers_perm members).map Prod.fst).nodup_iff.2 h
  have hne : (sortMembers members).Pairwise fun a b => a.1 ≠ b.1 := List.pairwise_map.1 hnodup
  refine ((sortMembers_pairwise members).and hne).imp ?_
  rintro a b ⟨hle, hab⟩
  rw [keyLt_iff]
  exact lt_of_le_of_ne hle fun heq => hab (utf16_injective heq)

theorem eq_of_keys_nodup {members : List (String × α)} (h : (members.map Prod.fst).Nodup)
    {a b : String × α} (ha : a ∈ members) (hb : b ∈ members) (hkey : a.1 = b.1) : a = b :=
  List.inj_on_of_nodup_map h ha hb hkey

/-- Sorting brings members back in their strict order. -/
theorem sortMembers_eq {members sorted : List (String × α)} (hperm : members.Perm sorted)
    (hsorted : StrictKeys sorted) : sortMembers members = sorted := by
  have hperm' := (sortMembers_perm members).trans hperm
  have hle : sorted.Pairwise fun a b => utf16 a.1 ≤ utf16 b.1 :=
    hsorted.imp fun h => le_of_lt (keyLt_iff.1 h)
  refine List.Perm.eq_of_pairwise ?_ (sortMembers_pairwise members) hle hperm'
  intro a b ha hb hab hba
  exact eq_of_keys_nodup hsorted.nodup (hperm'.mem_iff.1 ha) hb
    (utf16_injective (le_antisymm hab hba))

end Members

/-! ## Values and their parts -/

namespace Json

/-- Induction over a value and its parts. -/
theorem parts_induction {motive : Json → Prop} (null : motive .null)
    (bool : ∀ value, motive (.bool value)) (num : ∀ value, motive (.num value))
    (str : ∀ value, motive (.str value))
    (arr : ∀ items, (∀ item ∈ items, motive item) → motive (.arr items))
    (obj : ∀ members, (∀ m ∈ members, motive m.2) → motive (.obj members)) (value : Json) :
    motive value := by
  refine @Json.rec motive (fun items => ∀ item ∈ items, motive item)
    (fun members => ∀ m ∈ members, motive m.2) (fun m => motive m.2) null bool num str arr obj
    ?_ ?_ ?_ ?_ ?_ value
  all_goals simp_all

mutual

/-- The property holds of the value and of all its parts. -/
def Everywhere (p : Json → Prop) : Json → Prop
  | arr items => p (arr items) ∧ EveryItem p items
  | obj members => p (obj members) ∧ EveryMember p members
  | value => p value

def EveryItem (p : Json → Prop) : List Json → Prop
  | [] => True
  | item :: items => item.Everywhere p ∧ EveryItem p items

def EveryMember (p : Json → Prop) : List (String × Json) → Prop
  | [] => True
  | (_, item) :: members => item.Everywhere p ∧ EveryMember p members

end

theorem everyItem_iff {p : Json → Prop} {items : List Json} :
    EveryItem p items ↔ ∀ item ∈ items, item.Everywhere p := by
  induction items with
  | nil => simp [EveryItem]
  | cons item items ih => simp [EveryItem, ih]

theorem everyMember_iff {p : Json → Prop} {members : JsonObject} :
    EveryMember p members ↔ ∀ m ∈ members, m.2.Everywhere p := by
  induction members with
  | nil => simp [EveryMember]
  | cons m members ih => simp [EveryMember, ih]

@[simp]
theorem everywhere_arr {p : Json → Prop} {items : List Json} :
    (arr items).Everywhere p ↔ p (arr items) ∧ ∀ item ∈ items, item.Everywhere p := by
  rw [Everywhere, everyItem_iff]

@[simp]
theorem everywhere_obj {p : Json → Prop} {members : JsonObject} :
    (obj members).Everywhere p ↔ p (obj members) ∧ ∀ m ∈ members, m.2.Everywhere p := by
  rw [Everywhere, everyMember_iff]

/-- A number is finite. -/
def FiniteHere : Json → Prop
  | num value => value.isFinite = true
  | _ => True

/-- The members of an object are in strict order. -/
def SortedHere : Json → Prop
  | obj members => StrictKeys members
  | _ => True

section Text

variable [Host]

/-- A string and the keys of an object are normalized. -/
def NormalHere : Json → Prop
  | str value => Host.nfc value = value
  | obj members => ∀ m ∈ members, Host.nfc m.1 = m.1
  | _ => True

/-- Two members: normalization keeps the strict order of their keys. -/
def OrderKept (a b : String) : Prop :=
  (KeyLt a b ∧ KeyLt (Host.nfc a) (Host.nfc b)) ∨ (KeyLt b a ∧ KeyLt (Host.nfc b) (Host.nfc a))

instance (a b : String) : Decidable (OrderKept a b) :=
  inferInstanceAs (Decidable (_ ∨ _))

/-- Normalization keeps the strict order of the keys of an object. -/
def OrderKeptHere : Json → Prop
  | obj members => members.Pairwise fun a b => OrderKept a.1 b.1
  | _ => True

/-! ## The text of a value -/

mutual

/-- `JSON.stringify` of a value with finite numbers. -/
def stringify : Json → String
  | null => "null"
  | bool value => if value then "true" else "false"
  | num value => Host.numberToString value
  | str value => quote value
  | arr items => "[" ++ ",".intercalate (stringifyItems items) ++ "]"
  | obj members => "\x7b" ++ ",".intercalate (stringifyMembers members) ++ "\x7d"

def stringifyItems : List Json → List String
  | [] => []
  | item :: items => item.stringify :: stringifyItems items

def stringifyMembers : List (String × Json) → List String
  | [] => []
  | (key, item) :: members => (quote key ++ ":" ++ item.stringify) :: stringifyMembers members

end

mutual

/-- The value whose text is the canonical text. -/
def canonicalForm : Json → Json
  | str value => str (Host.nfc value)
  | arr items => arr (canonicalItems items)
  | obj members =>
    obj ((sortMembers (canonicalMembers members)).map fun m => (Host.nfc m.1, m.2))
  | value => value

def canonicalItems : List Json → List Json
  | [] => []
  | item :: items => item.canonicalForm :: canonicalItems items

def canonicalMembers : List (String × Json) → List (String × Json)
  | [] => []
  | (key, item) :: members => (key, item.canonicalForm) :: canonicalMembers members

end

theorem stringifyItems_eq_map (items : List Json) : stringifyItems items = items.map stringify := by
  induction items with
  | nil => simp [stringifyItems]
  | cons item items ih => simp [stringifyItems, ih]

theorem stringifyMembers_eq_map (members : JsonObject) :
    stringifyMembers members = members.map fun m => quote m.1 ++ ":" ++ m.2.stringify := by
  induction members with
  | nil => simp [stringifyMembers]
  | cons m members ih => simp [stringifyMembers, ih]

theorem canonicalItems_eq_map (items : List Json) :
    canonicalItems items = items.map canonicalForm := by
  induction items with
  | nil => simp [canonicalItems]
  | cons item items ih => simp [canonicalItems, ih]

theorem canonicalMembers_eq_mapValues (members : JsonObject) :
    canonicalMembers members = mapValues canonicalForm members := by
  unfold mapValues
  induction members with
  | nil => simp [canonicalMembers]
  | cons m members ih => simp [canonicalMembers, ih]

theorem canonicalForm_obj (members : JsonObject) : (obj members).canonicalForm =
    obj ((sortMembers (mapValues canonicalForm members)).map fun m => (Host.nfc m.1, m.2)) := by
  rw [canonicalForm, canonicalMembers_eq_mapValues]

/-- The canonical text of a value without infinite numbers. -/
theorem canonicalizeJson_of_finite {value : Json} (h : value.Everywhere FiniteHere) :
    value.canonicalizeJson = .ok value.canonicalForm.stringify := by
  induction value using parts_induction with
  | null => rfl
  | bool value => rfl
  | num value =>
    have hfinite : value.isFinite = true := h
    rw [canonicalizeJson, if_pos hfinite]
    rfl
  | str value => rfl
  | arr items ih =>
    have hitems : canonicalizeItems items = .ok (items.map fun item => item.canonicalForm.stringify) := by
      have hparts := (everywhere_arr.1 h).2
      clear h
      induction items with
      | nil => rfl
      | cons item items ihitems =>
        rw [canonicalizeItems, ih item List.mem_cons_self (hparts item List.mem_cons_self),
          ihitems (fun i hi => ih i (List.mem_cons_of_mem _ hi))
            (fun i hi => hparts i (List.mem_cons_of_mem _ hi))]
        rfl
    rw [canonicalizeJson, hitems, canonicalForm, stringify, canonicalItems_eq_map,
      stringifyItems_eq_map, List.map_map]
    rfl
  | obj members ih =>
    have hmembers : canonicalizeMembers members =
        .ok (mapValues (fun item => item.canonicalForm.stringify) members) := by
      have hparts := (everywhere_obj.1 h).2
      clear h
      induction members with
      | nil => rfl
      | cons m members ihmembers =>
        rw [canonicalizeMembers, ih m List.mem_cons_self (hparts m List.mem_cons_self),
          ihmembers (fun i hi => ih i (List.mem_cons_of_mem _ hi))
            (fun i hi => hparts i (List.mem_cons_of_mem _ hi))]
        rfl
    have hsort := sortMembers_mapValues (fun item => item.canonicalForm.stringify) members
    have hform := sortMembers_mapValues canonicalForm members
    rw [canonicalizeJson, hmembers, canonicalForm_obj, stringify, stringifyMembers_eq_map, hform]
    simp only [bind, Except.bind, pure, Except.pure]
    rw [show List.insertionSort _ _ = sortMembers _ from rfl, hsort]
    simp only [mapValues, List.map_map]
    rfl

/-- Only a value without infinite numbers has a canonical text. -/
theorem finite_of_canonicalizeJson {value : Json} : ∀ {text : String},
    value.canonicalizeJson = .ok text → value.Everywhere FiniteHere := by
  induction value using parts_induction with
  | null => exact fun _ => trivial
  | bool value => exact fun _ => trivial
  | num value =>
    intro text h
    rw [canonicalizeJson] at h
    split_ifs at h with hfinite
    exact hfinite
  | str value => exact fun _ => trivial
  | arr items ih =>
    intro text h
    rw [canonicalizeJson] at h
    refine everywhere_arr.2 ⟨trivial, ?_⟩
    cases hitems : canonicalizeItems items with
    | error error =>
      rw [hitems] at h
      cases h
    | ok texts =>
      clear h
      induction items generalizing texts with
      | nil => simp
      | cons item items ihitems =>
        rw [canonicalizeItems] at hitems
        cases hitem : item.canonicalizeJson with
        | error error =>
          rw [hitem] at hitems
          cases hitems
        | ok first =>
          cases hrest : canonicalizeItems items with
          | error error =>
            rw [hitem, hrest] at hitems
            cases hitems
          | ok rest =>
            rw [List.forall_mem_cons]
            exact ⟨ih item List.mem_cons_self hitem,
              ihitems (fun i hi => ih i (List.mem_cons_of_mem _ hi)) rest hrest⟩
  | obj members ih =>
    intro text h
    rw [canonicalizeJson] at h
    refine everywhere_obj.2 ⟨trivial, ?_⟩
    cases hmembers : canonicalizeMembers members with
    | error error =>
      rw [hmembers] at h
      cases h
    | ok texts =>
      clear h
      induction members generalizing texts with
      | nil => simp
      | cons m members ihmembers =>
        obtain ⟨key, item⟩ := m
        rw [canonicalizeMembers] at hmembers
        cases hitem : item.canonicalizeJson with
        | error error =>
          rw [hitem] at hmembers
          cases hmembers
        | ok first =>
          cases hrest : canonicalizeMembers members with
          | error error =>
            rw [hitem, hrest] at hmembers
            cases hmembers
          | ok rest =>
            rw [List.forall_mem_cons]
            exact ⟨ih (key, item) List.mem_cons_self hitem,
              ihmembers (fun i hi => ih i (List.mem_cons_of_mem _ hi)) rest hrest⟩

/-! ## Properties of the canonical form -/

theorem finite_canonicalForm {value : Json} (h : value.Everywhere FiniteHere) :
    value.canonicalForm.Everywhere FiniteHere := by
  induction value using parts_induction with
  | null => exact h
  | bool value => exact h
  | num value => exact h
  | str value => trivial
  | arr items ih =>
    rw [canonicalForm, canonicalItems_eq_map, everywhere_arr]
    refine ⟨trivial, ?_⟩
    rw [List.forall_mem_map]
    exact fun item hitem => ih item hitem ((everywhere_arr.1 h).2 item hitem)
  | obj members ih =>
    rw [canonicalForm_obj, sortMembers_mapValues, everywhere_obj]
    refine ⟨trivial, ?_⟩
    simp only [mapValues, List.forall_mem_map]
    intro m hm
    have hmem := (sortMembers_perm members).mem_iff.1 hm
    exact ih m hmem ((everywhere_obj.1 h).2 m hmem)

theorem normal_canonicalForm (hnfc : ∀ s : String, Host.nfc (Host.nfc s) = Host.nfc s)
    (value : Json) : value.canonicalForm.Everywhere NormalHere := by
  induction value using parts_induction with
  | null => trivial
  | bool value => trivial
  | num value => trivial
  | str value => exact hnfc value
  | arr items ih =>
    rw [canonicalForm, canonicalItems_eq_map, everywhere_arr]
    refine ⟨trivial, ?_⟩
    rw [List.forall_mem_map]
    exact ih
  | obj members ih =>
    rw [canonicalForm_obj, sortMembers_mapValues, everywhere_obj, NormalHere]
    simp only [mapValues, List.forall_mem_map]
    exact ⟨fun m _ => hnfc m.1, fun m hm => ih m ((sortMembers_perm members).mem_iff.1 hm)⟩

theorem orderKept_comm {a b : String} (h : OrderKept a b) : OrderKept b a := h.symm

/-- The normalized keys are in strict order when normalization keeps their order. -/
theorem strictKeys_normalized_iff (members : JsonObject) :
    StrictKeys ((sortMembers members).map fun m => (Host.nfc m.1, m.2)) ↔
      members.Pairwise fun a b => OrderKept a.1 b.1 := by
  rw [← (sortMembers_perm members).pairwise_iff fun h => orderKept_comm h, StrictKeys,
    List.pairwise_map]
  have hsorted := sortMembers_pairwise members
  constructor
  · intro h
    refine (h.and hsorted).imp ?_
    rintro a b ⟨hlt, hle⟩
    refine Or.inl ⟨keyLt_iff.2 (lt_of_le_of_ne hle fun heq => ?_), hlt⟩
    rw [utf16_injective heq] at hlt
    exact not_keyLt_self _ hlt
  · intro h
    refine (h.and hsorted).imp ?_
    rintro a b ⟨hkept, hle⟩
    rcases hkept with ⟨-, hlt⟩ | ⟨hlt, -⟩
    · exact hlt
    · exact absurd (keyLt_iff.1 hlt) (not_lt_of_ge hle)

theorem sorted_canonicalForm_iff (value : Json) :
    value.canonicalForm.Everywhere SortedHere ↔ value.Everywhere OrderKeptHere := by
  induction value using parts_induction with
  | null => exact Iff.rfl
  | bool value => exact Iff.rfl
  | num value => exact Iff.rfl
  | str value => exact Iff.rfl
  | arr items ih =>
    rw [canonicalForm, canonicalItems_eq_map, everywhere_arr, everywhere_arr, List.forall_mem_map]
    exact and_congr Iff.rfl (forall₂_congr ih)
  | obj members ih =>
    rw [canonicalForm_obj, everywhere_obj, everywhere_obj, SortedHere, OrderKeptHere,
      strictKeys_normalized_iff, mapValues, List.pairwise_map, ← mapValues, sortMembers_mapValues]
    refine and_congr Iff.rfl ?_
    simp only [mapValues, List.forall_mem_map, (sortMembers_perm members).mem_iff]
    exact forall₂_congr ih

end Text

/-! ## Reading a text back -/

/-- The array index that a key is, if it is one: the decimal form of a number below `2 ^ 32 - 1`. -/
def arrayIndex (key : String) : Option ℕ :=
  let n := key.toList.foldl (fun n c => n * 10 + (c.toNat - 48)) 0
  if toString n = key ∧ n < 2 ^ 32 - 1 then some n else none

/-- Array indices come first, in ascending order. -/
def indexLe : Option ℕ → Option ℕ → Bool
  | some i, some j => i ≤ j
  | some _, none => true
  | none, some _ => false
  | none, none => true

/-- The order of the own properties of an object: array indices, then the other keys as they were
created. -/
def ownOrder (members : JsonObject) : JsonObject :=
  members.insertionSort fun a b => indexLe (arrayIndex a.1) (arrayIndex b.1) = true

/-- Create the property or give it a new value. -/
def setMember (members : JsonObject) (m : String × Json) : JsonObject :=
  if m.1 ∈ members.keys then members.map fun m' => if m'.1 = m.1 then m else m'
  else members ++ [m]

mutual

/-- The value that `JSON.parse` makes of the text of a value: there is one zero, and the last of
several members with one key counts. -/
def reread : Json → Json
  | num value => num (if value.isZero then ⟨0⟩ else value)
  | arr items => arr (rereadItems items)
  | obj members => obj (ownOrder ((rereadMembers members).foldl setMember []))
  | value => value

def rereadItems : List Json → List Json
  | [] => []
  | item :: items => item.reread :: rereadItems items

def rereadMembers : List (String × Json) → List (String × Json)
  | [] => []
  | (key, item) :: members => (key, item.reread) :: rereadMembers members

end

theorem rereadItems_eq_map (items : List Json) : rereadItems items = items.map reread := by
  induction items with
  | nil => simp [rereadItems]
  | cons item items ih => simp [rereadItems, ih]

theorem rereadMembers_eq_mapValues (members : JsonObject) :
    rereadMembers members = mapValues reread members := by
  unfold mapValues
  induction members with
  | nil => simp [rereadMembers]
  | cons m members ih => simp [rereadMembers, ih]

theorem keys_map_setMember (members : JsonObject) (m : String × Json) :
    JsonObject.keys (members.map fun m' => if m'.1 = m.1 then m else m') = members.keys := by
  unfold JsonObject.keys
  rw [List.map_map]
  apply List.map_congr_left
  intro m' _
  by_cases h : m'.1 = m.1 <;> simp [h]

theorem nodup_setMember {members : JsonObject} (h : members.keys.Nodup) (m : String × Json) :
    (setMember members m).keys.Nodup := by
  unfold setMember
  split_ifs with hmem
  · rw [keys_map_setMember]
    exact h
  · rw [JsonObject.keys, List.map_append, List.nodup_append]
    refine ⟨h, List.nodup_singleton _, ?_⟩
    rintro key hkey key' hkey' rfl
    rw [List.map_singleton, List.mem_singleton] at hkey'
    exact hmem (hkey' ▸ hkey)

theorem mem_setMember {members : JsonObject} {m m' : String × Json}
    (h : m' ∈ setMember members m) : m' ∈ members ∨ m' = m := by
  unfold setMember at h
  split_ifs at h
  · obtain ⟨old, hold, rfl⟩ := List.mem_map.1 h
    by_cases hkey : old.1 = m.1
    · exact Or.inr (by simp [hkey])
    · exact Or.inl (by simpa [hkey] using hold)
  · simpa using h

theorem nodup_foldl_setMember (members : JsonObject) {start : JsonObject}
    (h : start.keys.Nodup) : (JsonObject.keys (members.foldl setMember start)).Nodup := by
  induction members generalizing start with
  | nil => exact h
  | cons m members ih => exact ih (nodup_setMember h m)

theorem mem_foldl_setMember {members start : JsonObject} {m : String × Json}
    (h : m ∈ members.foldl setMember start) : m ∈ start ∨ m ∈ members := by
  induction members generalizing start with
  | nil => exact Or.inl h
  | cons first members ih =>
    rcases ih h with hstart | hrest
    · rcases mem_setMember hstart with hmem | rfl
      · exact Or.inl hmem
      · exact Or.inr List.mem_cons_self
    · exact Or.inr (List.mem_cons_of_mem _ hrest)

/-- Members with different keys are all created. -/
theorem foldl_setMember {members start : JsonObject} (h : JsonObject.keys (start ++ members) |>.Nodup) :
    members.foldl setMember start = start ++ members := by
  induction members generalizing start with
  | nil => simp
  | cons m members ih =>
    have hnew : m.1 ∉ start.keys := by
      intro hmem
      rw [JsonObject.keys, List.map_append, List.nodup_append] at h
      exact h.2.2 m.1 hmem m.1 (by simp) rfl
    rw [List.foldl_cons, setMember, if_neg hnew, ih (by simpa using h), List.append_assoc]
    rfl

theorem ownOrder_perm (members : JsonObject) : (ownOrder members).Perm members :=
  List.perm_insertionSort _ _

/-- The members of an object that was read back. -/
theorem reread_obj (members : JsonObject) : ∃ members' : JsonObject,
    (obj members).reread = obj members' ∧ members'.keys.Nodup ∧
      ∀ m ∈ members', m ∈ mapValues reread members := by
  refine ⟨_, by rw [reread, rereadMembers_eq_mapValues], ?_, ?_⟩
  · have hperm := (ownOrder_perm ((mapValues reread members).foldl setMember [])).map Prod.fst
    exact hperm.nodup_iff.2 (nodup_foldl_setMember _ List.nodup_nil)
  · intro m hm
    have hmem := mem_foldl_setMember ((ownOrder_perm _).mem_iff.1 hm)
    exact hmem.resolve_left List.not_mem_nil

/-- Members in strict order are read back, in some order. -/
theorem reread_obj_of_strictKeys {members : JsonObject} (h : StrictKeys members) :
    ∃ members' : JsonObject, (obj members).reread = obj members' ∧
      members'.Perm (mapValues reread members) := by
  refine ⟨_, by rw [reread, rereadMembers_eq_mapValues], ?_⟩
  have hnodup : (JsonObject.keys ([] ++ mapValues reread members)).Nodup := (h.mapValues reread).nodup
  rw [foldl_setMember hnodup]
  exact ownOrder_perm _

theorem mapValues_map_fst [Host] {members : JsonObject} (h : ∀ m ∈ members, Host.nfc m.1 = m.1)
    (f : Json → Json) :
    (mapValues f members).map (fun m => (Host.nfc m.1, m.2)) = mapValues f members := by
  unfold mapValues
  rw [List.map_map]
  apply List.map_congr_left
  intro m hm
  show (Host.nfc m.1, f m.2) = (m.1, f m.2)
  rw [h m hm]

theorem finite_reread {value : Json} (h : value.Everywhere FiniteHere) :
    value.reread.Everywhere FiniteHere := by
  induction value using parts_induction with
  | null => exact h
  | bool value => exact h
  | num value =>
    rw [reread]
    split_ifs
    · show JsNumber.isFinite ⟨0⟩ = true
      decide
    · exact h
  | str value => trivial
  | arr items ih =>
    rw [reread, rereadItems_eq_map, everywhere_arr]
    refine ⟨trivial, ?_⟩
    rw [List.forall_mem_map]
    exact fun item hitem => ih item hitem ((everywhere_arr.1 h).2 item hitem)
  | obj members ih =>
    obtain ⟨members', heq, -, hmem⟩ := reread_obj members
    rw [heq, everywhere_obj]
    refine ⟨trivial, fun m hm => ?_⟩
    obtain ⟨original, horiginal, rfl⟩ := List.mem_map.1 (hmem m hm)
    exact ih original horiginal ((everywhere_obj.1 h).2 original horiginal)

section Reread

variable [Host]

/-- What was read back has a canonical form in strict order. -/
theorem sorted_canonicalForm_reread {value : Json} (h : value.Everywhere NormalHere) :
    value.reread.canonicalForm.Everywhere SortedHere := by
  induction value using parts_induction with
  | null => trivial
  | bool value => trivial
  | num value => trivial
  | str value => trivial
  | arr items ih =>
    rw [reread, rereadItems_eq_map, canonicalForm, canonicalItems_eq_map, everywhere_arr]
    refine ⟨trivial, ?_⟩
    simp only [List.forall_mem_map]
    exact fun item hitem => ih item hitem ((everywhere_arr.1 h).2 item hitem)
  | obj members ih =>
    obtain ⟨members', heq, hnodup, hmem⟩ := reread_obj members
    obtain ⟨hkeys, hparts⟩ := everywhere_obj.1 h
    have horigin : ∀ m ∈ sortMembers members', ∃ original ∈ members,
        (original.1, original.2.reread) = m := fun m hm =>
      List.mem_map.1 (hmem m ((sortMembers_perm members').mem_iff.1 hm))
    have hnormal : ∀ m ∈ sortMembers members', Host.nfc m.1 = m.1 := by
      intro m hm
      obtain ⟨original, horiginal, rfl⟩ := horigin m hm
      exact hkeys original horiginal
    rw [heq, canonicalForm_obj, sortMembers_mapValues, mapValues_map_fst hnormal, everywhere_obj]
    refine ⟨(strictKeys_sortMembers hnodup).mapValues canonicalForm, ?_⟩
    simp only [mapValues, List.forall_mem_map]
    intro m hm
    obtain ⟨original, horiginal, rfl⟩ := horigin m hm
    exact ih original horiginal (hparts original horiginal)

/-- A value in strict order, read back, has the same text. -/
theorem stringify_canonicalForm_reread
    (hzero : ∀ n : JsNumber, n.isZero = true → Host.numberToString n = "0") {value : Json}
    (hsorted : value.Everywhere SortedHere) (hnormal : value.Everywhere NormalHere) :
    value.reread.canonicalForm.stringify = value.stringify := by
  induction value using parts_induction with
  | null => rfl
  | bool value => rfl
  | num value =>
    rw [reread]
    split_ifs with h
    · show Host.numberToString ⟨0⟩ = Host.numberToString value
      rw [hzero value h, hzero ⟨0⟩ (by decide)]
    · rfl
  | str value =>
    have hvalue : Host.nfc value = value := hnormal
    show quote (Host.nfc value) = quote value
    rw [hvalue]
  | arr items ih =>
    have hsorted' := (everywhere_arr.1 hsorted).2
    have hnormal' := (everywhere_arr.1 hnormal).2
    rw [reread, rereadItems_eq_map, canonicalForm, canonicalItems_eq_map, stringify, stringify,
      stringifyItems_eq_map, stringifyItems_eq_map, List.map_map, List.map_map]
    congr 3
    apply List.map_congr_left
    intro item hitem
    exact ih item hitem (hsorted' item hitem) (hnormal' item hitem)
  | obj members ih =>
    obtain ⟨hstrict, hsorted'⟩ := everywhere_obj.1 hsorted
    obtain ⟨hkeys, hnormal'⟩ := everywhere_obj.1 hnormal
    obtain ⟨members', heq, hperm⟩ := reread_obj_of_strictKeys hstrict
    have hkeys' : ∀ m ∈ mapValues reread members, Host.nfc m.1 = m.1 := by
      intro m hm
      obtain ⟨original, horiginal, rfl⟩ := List.mem_map.1 hm
      exact hkeys original horiginal
    rw [heq, canonicalForm_obj, sortMembers_mapValues,
      sortMembers_eq hperm (hstrict.mapValues reread), mapValues_map_fst hkeys', stringify,
      stringify, stringifyMembers_eq_map, stringifyMembers_eq_map, mapValues, mapValues,
      List.map_map, List.map_map]
    congr 3
    apply List.map_congr_left
    intro m hm
    show quote m.1 ++ ":" ++ m.2.reread.canonicalForm.stringify = quote m.1 ++ ":" ++ m.2.stringify
    rw [ih m hm (hsorted' m hm) (hnormal' m hm)]

end Reread

end Json

end ChecksAndBalances
