import ChecksAndBalances.Verus.Parse

/-!
# Equality of values

Two values are equal when they differ in the order of members and the sign of zeros only.  On values
with normalized strings and keys the canonical texts are equal exactly when the values are, and
`JSON.parse` reads an equal value back.
-/

namespace ChecksAndBalances

namespace Json

mutual

/-- Equality as JSON values: objects are unordered maps, and both zeros are equal. -/
def Equal : Json → Json → Prop
  | null, null => True
  | bool a, bool b => a = b
  | num a, num b => a = b ∨ (a.isZero = true ∧ b.isZero = true)
  | str a, str b => a = b
  | arr as, arr bs => EqualItems as bs
  | obj as, obj bs =>
    (∀ key, key ∈ JsonObject.keys as ↔ key ∈ JsonObject.keys bs) ∧ EqualMembers as bs
  | _, _ => False

def EqualItems : List Json → List Json → Prop
  | [], [] => True
  | a :: as, b :: bs => a.Equal b ∧ EqualItems as bs
  | _, _ => False

/-- Every member of the first list is one of the second. -/
def EqualMembers : List (String × Json) → List (String × Json) → Prop
  | [], _ => True
  | (key, a) :: as, bs => (∃ b, (key, b) ∈ bs ∧ a.Equal b) ∧ EqualMembers as bs

end

theorem equalItems_iff {as bs : List Json} : EqualItems as bs ↔ List.Forall₂ Equal as bs := by
  induction as generalizing bs with
  | nil => cases bs <;> simp [EqualItems]
  | cons a as ih => cases bs <;> simp [EqualItems, ih]

theorem equalMembers_iff {as bs : JsonObject} :
    EqualMembers as bs ↔ ∀ m ∈ as, ∃ b, (m.1, b) ∈ bs ∧ m.2.Equal b := by
  induction as with
  | nil => simp [EqualMembers]
  | cons m as ih => simp [EqualMembers, ih]

/-- The keys of an object are different. -/
def DistinctHere : Json → Prop
  | obj members => (JsonObject.keys members).Nodup
  | _ => True

/-! ## Canonical forms of equal values -/

theorem sortMembers_eq_iff {α : Type} {as bs : List (String × α)} (ha : (as.map Prod.fst).Nodup)
    (hb : (bs.map Prod.fst).Nodup) :
    sortMembers as = sortMembers bs ↔ ∀ m, m ∈ as ↔ m ∈ bs := by
  rw [← List.perm_ext_iff_of_nodup ha.of_map hb.of_map]
  constructor
  · intro h
    exact ((sortMembers_perm as).symm.trans (h ▸ List.Perm.refl _)).trans (sortMembers_perm bs)
  · intro h
    exact sortMembers_eq (h.trans (sortMembers_perm bs).symm) (strictKeys_sortMembers hb)

theorem keys_mapValues (f : Json → Json) (members : JsonObject) :
    (mapValues f members).map Prod.fst = members.keys := by
  rw [mapValues, List.map_map]
  rfl

/-- Two maps have the same members under `f` when they have the same keys with equal values. -/
theorem mem_mapValues_iff {f : Json → Json} {as bs : JsonObject} (hb : bs.keys.Nodup)
    (hf : ∀ m ∈ as, ∀ m' ∈ bs, f m.2 = f m'.2 ↔ m.2.Equal m'.2) :
    (∀ m, m ∈ mapValues f as ↔ m ∈ mapValues f bs) ↔ (obj as).Equal (obj bs) := by
  rw [Equal, equalMembers_iff]
  constructor
  · intro h
    refine ⟨fun key => ?_, fun m hm => ?_⟩
    · rw [← keys_mapValues f as, ← keys_mapValues f bs, List.mem_map, List.mem_map]
      exact exists_congr fun m => and_congr (h m) Iff.rfl
    · obtain ⟨m', hm', heq⟩ := List.mem_map.1 ((h (m.1, f m.2)).1 (List.mem_map_of_mem hm))
      rw [Prod.mk.injEq] at heq
      refine ⟨m'.2, ?_, (hf m hm m' hm').1 heq.2.symm⟩
      rw [← heq.1]
      exact hm'
  · rintro ⟨hkeys, hmembers⟩ m
    constructor
    · intro hm
      obtain ⟨a, ha, rfl⟩ := List.mem_map.1 hm
      obtain ⟨b, hb', hab⟩ := hmembers a ha
      rw [(hf a ha _ hb').2 hab]
      exact List.mem_map_of_mem hb'
    · intro hm
      obtain ⟨b, hb', rfl⟩ := List.mem_map.1 hm
      obtain ⟨a, ha, hkey⟩ := List.mem_map.1 ((hkeys b.1).2 (List.mem_map_of_mem hb'))
      obtain ⟨b', hb'', hab⟩ := hmembers a ha
      obtain rfl : (a.1, b') = b := eq_of_keys_nodup hb hb'' hb' hkey
      rw [← (hf a ha _ hb'').2 hab]
      exact List.mem_map_of_mem ha

theorem oneZero_eq_iff {a b : JsNumber} :
    oneZero a = oneZero b ↔ a = b ∨ (a.isZero = true ∧ b.isZero = true) := by
  have hzero : JsNumber.isZero ⟨0⟩ = true := by decide
  unfold oneZero
  by_cases ha : a.isZero = true
  · by_cases hb : b.isZero = true
    · simp [ha, hb]
    · have hne : (⟨0⟩ : JsNumber) ≠ b := fun h => hb (h ▸ hzero)
      have hab : a ≠ b := fun h => hb (h ▸ ha)
      simpa [ha, hb, hab] using hne
  · by_cases hb : b.isZero = true
    · have hne : a ≠ (⟨0⟩ : JsNumber) := fun h => ha (h ▸ hzero)
      have hab : a ≠ b := fun h => ha (h ▸ hb)
      simpa [ha, hb, hab] using hne
    · simp [ha, hb]

section Canonical

variable [Host]

/-- The canonical form with one zero. -/
def plainForm (value : Json) : Json := value.canonicalForm.mapNumbers oneZero

theorem plainForm_obj {members : JsonObject} (h : ∀ m ∈ members, Host.nfc m.1 = m.1) :
    (obj members).plainForm = obj (sortMembers (mapValues plainForm members)) := by
  have hnormal : ∀ m ∈ sortMembers members, Host.nfc m.1 = m.1 := fun m hm =>
    h m ((sortMembers_perm members).mem_iff.1 hm)
  rw [plainForm, canonicalForm_obj, sortMembers_mapValues, mapValues_map_fst hnormal, mapNumbers,
    mapNumbersMembers_eq_mapValues, sortMembers_mapValues]
  simp only [mapValues, List.map_map]
  rfl

/-- The canonical forms of two values are equal, up to the sign of zeros, when the values are. -/
theorem plainForm_eq_iff {a : Json} : ∀ {b : Json}, a.Everywhere NormalHere →
    b.Everywhere NormalHere → a.Everywhere DistinctHere → b.Everywhere DistinctHere →
    (a.plainForm = b.plainForm ↔ a.Equal b) := by
  induction a using parts_induction with
  | null =>
    intro b _ _ _ _
    cases b <;> simp [plainForm, canonicalForm, mapNumbers, Equal]
  | bool a =>
    intro b _ _ _ _
    cases b <;> simp [plainForm, canonicalForm, mapNumbers, Equal]
  | num a =>
    intro b _ _ _ _
    cases b <;> simp [plainForm, canonicalForm, mapNumbers, Equal, oneZero_eq_iff]
  | str a =>
    intro b ha hb _ _
    cases b with
    | str b =>
      have ha' : Host.nfc a = a := ha
      have hb' : Host.nfc b = b := hb
      simp [plainForm, canonicalForm, mapNumbers, Equal, ha', hb']
    | _ => simp [plainForm, canonicalForm, mapNumbers, Equal]
  | arr as ih =>
    intro b ha hb hda hdb
    cases b with
    | arr bs =>
      rw [everywhere_arr] at ha hb hda hdb
      have hall : List.Forall₂ (fun a b => plainForm a = plainForm b) as bs ↔
          List.Forall₂ Equal as bs := by
        constructor
        · intro h
          refine (List.forall₂_iff_get.2 ?_)
          obtain ⟨hlength, hget⟩ := List.forall₂_iff_get.1 h
          exact ⟨hlength, fun i hi hi' => (ih _ (List.get_mem _ _) (ha.2 _ (List.get_mem _ _))
            (hb.2 _ (List.get_mem _ _)) (hda.2 _ (List.get_mem _ _))
            (hdb.2 _ (List.get_mem _ _))).1 (hget i hi hi')⟩
        · intro h
          refine (List.forall₂_iff_get.2 ?_)
          obtain ⟨hlength, hget⟩ := List.forall₂_iff_get.1 h
          exact ⟨hlength, fun i hi hi' => (ih _ (List.get_mem _ _) (ha.2 _ (List.get_mem _ _))
            (hb.2 _ (List.get_mem _ _)) (hda.2 _ (List.get_mem _ _))
            (hdb.2 _ (List.get_mem _ _))).2 (hget i hi hi')⟩
      rw [Equal, equalItems_iff, ← hall, plainForm, plainForm, canonicalForm, canonicalForm,
        canonicalItems_eq_map, canonicalItems_eq_map, mapNumbers, mapNumbers,
        mapNumbersItems_eq_map, mapNumbersItems_eq_map, List.map_map, List.map_map, arr.injEq,
        ← List.forall₂_eq_eq_eq, List.forall₂_map_left_iff, List.forall₂_map_right_iff]
      rfl
    | _ => simp [plainForm, canonicalForm, mapNumbers, Equal]
  | obj as ih =>
    intro b ha hb hda hdb
    cases b with
    | obj bs =>
      rw [everywhere_obj] at ha hb hda hdb
      have hparts : ∀ m ∈ as, ∀ m' ∈ bs, m.2.plainForm = m'.2.plainForm ↔ m.2.Equal m'.2 :=
        fun m hm m' hm' => ih m hm (ha.2 m hm) (hb.2 m' hm') (hda.2 m hm) (hdb.2 m' hm')
      rw [plainForm_obj ha.1, plainForm_obj hb.1, obj.injEq, sortMembers_eq_iff,
        mem_mapValues_iff hdb.1 hparts]
      · rw [keys_mapValues]
        exact hda.1
      · rw [keys_mapValues]
        exact hdb.1
    | _ => simp [plainForm, canonicalForm, mapNumbers, Equal]

/-! ## Canonical texts of equal values -/

theorem stringify_mapNumbers_oneZero
    (hzero : ∀ n : JsNumber, n.isZero = true → Host.numberToString n = "0") (value : Json) :
    (value.mapNumbers oneZero).stringify = value.stringify := by
  induction value using parts_induction with
  | null => rfl
  | bool value => rfl
  | num value =>
    rw [mapNumbers, oneZero]
    split_ifs with h
    · rw [stringify, stringify, hzero value h, hzero ⟨0⟩ (by decide)]
    · rfl
  | str value => rfl
  | arr items ih =>
    rw [mapNumbers, mapNumbersItems_eq_map, stringify, stringify, stringifyItems_eq_map,
      stringifyItems_eq_map, List.map_map]
    congr 3
    exact List.map_congr_left ih
  | obj members ih =>
    rw [mapNumbers, mapNumbersMembers_eq_mapValues, stringify, stringify, stringifyMembers_eq_map,
      stringifyMembers_eq_map, mapValues, List.map_map]
    congr 3
    refine List.map_congr_left fun m hm => ?_
    show quote m.1 ++ ":" ++ (m.2.mapNumbers oneZero).stringify = _
    rw [ih m hm]

/-- A value with finite numbers, normalized strings and keys, and different keys in each object. -/
structure Proper (value : Json) : Prop where
  finite : value.Everywhere FiniteHere
  normal : value.Everywhere NormalHere
  distinct : value.Everywhere DistinctHere

/-- What the code relies on in `JSON.parse`: it reads the grammar, and the conversion of numerals
takes back the printing of numbers. -/
structure ParseLaws (readNumber : String → Option JsNumber) : Prop where
  jsonParse : ∀ text, Host.jsonParse text = parse readNumber text
  readsNumbers : ReadsNumbers readNumber

variable {readNumber : String → Option JsNumber}

/-- The canonical texts of two proper values are equal exactly when the values are. -/
theorem canonicalizeJson_eq_iff (laws : HostLaws) (hread : ReadsNumbers readNumber) {a b : Json}
    (ha : a.Proper) (hb : b.Proper) : a.canonicalizeJson = b.canonicalizeJson ↔ a.Equal b := by
  rw [← plainForm_eq_iff ha.normal hb.normal ha.distinct hb.distinct,
    canonicalizeJson_of_finite ha.finite, canonicalizeJson_of_finite hb.finite, Except.ok.injEq]
  constructor
  · intro h
    refine (stringify_append_inj laws.numberTexts (g := oneZero) ?_ (finite_canonicalForm ha.finite)
      (finite_canonicalForm hb.finite) stops_nil stops_nil (by rw [h])).1
    intro n n' hn hn' htext
    have hnumber := hread n hn
    rw [htext, hread n' hn'] at hnumber
    exact (Option.some.inj hnumber).symm
  · intro h
    rw [← stringify_mapNumbers_oneZero laws.zero a.canonicalForm,
      ← stringify_mapNumbers_oneZero laws.zero b.canonicalForm]
    exact congrArg stringify h

/-! ## Reading an equal value back -/

theorem orderKept_of_normal {a b : String} (ha : Host.nfc a = a) (hb : Host.nfc b = b)
    (hne : a ≠ b) : OrderKept a b := by
  unfold OrderKept
  rw [ha, hb, and_self, and_self, keyLt_iff, keyLt_iff]
  exact lt_or_gt_of_ne fun h => hne (utf16_injective h)

theorem Proper.orderKept {value : Json} (h : value.Proper) :
    value.Everywhere OrderKeptHere := by
  obtain ⟨-, hnormal, hdistinct⟩ := h
  induction value using parts_induction with
  | null => trivial
  | bool value => trivial
  | num value => trivial
  | str value => trivial
  | arr items ih =>
    rw [everywhere_arr] at hnormal hdistinct ⊢
    exact ⟨trivial, fun item hitem =>
      ih item hitem (hnormal.2 item hitem) (hdistinct.2 item hitem)⟩
  | obj members ih =>
    rw [everywhere_obj] at hnormal hdistinct ⊢
    refine ⟨?_, fun m hm => ih m hm (hnormal.2 m hm) (hdistinct.2 m hm)⟩
    have hkeys : members.Pairwise fun a b => a.1 ≠ b.1 := List.pairwise_map.1 hdistinct.1
    exact hkeys.imp_of_mem fun ha hb hne =>
      orderKept_of_normal (hnormal.1 _ ha) (hnormal.1 _ hb) hne

theorem normal_reread {value : Json} (h : value.Everywhere NormalHere) :
    value.reread.Everywhere NormalHere := by
  induction value using parts_induction with
  | null => trivial
  | bool value => trivial
  | num value => trivial
  | str value => exact h
  | arr items ih =>
    rw [everywhere_arr] at h
    rw [reread, rereadItems_eq_map, everywhere_arr, List.forall_mem_map]
    exact ⟨trivial, fun item hitem => ih item hitem (h.2 item hitem)⟩
  | obj members ih =>
    rw [everywhere_obj] at h
    obtain ⟨members', heq, -, hmem⟩ := reread_obj members
    have horigin : ∀ m ∈ members', ∃ original ∈ members,
        (original.1, original.2.reread) = m := fun m hm => List.mem_map.1 (hmem m hm)
    rw [heq, everywhere_obj]
    constructor
    · intro m hm
      obtain ⟨original, horiginal, rfl⟩ := horigin m hm
      exact h.1 original horiginal
    · intro m hm
      obtain ⟨original, horiginal, rfl⟩ := horigin m hm
      exact ih original horiginal (h.2 original horiginal)

omit [Host] in
theorem distinct_reread (value : Json) : value.reread.Everywhere DistinctHere := by
  induction value using parts_induction with
  | null => trivial
  | bool value => trivial
  | num value => trivial
  | str value => trivial
  | arr items ih =>
    rw [reread, rereadItems_eq_map, everywhere_arr, List.forall_mem_map]
    exact ⟨trivial, ih⟩
  | obj members ih =>
    obtain ⟨members', heq, hnodup, hmem⟩ := reread_obj members
    rw [heq, everywhere_obj]
    refine ⟨hnodup, fun m hm => ?_⟩
    obtain ⟨original, horiginal, rfl⟩ := List.mem_map.1 (hmem m hm)
    exact ih original horiginal

theorem Proper.reread (laws : HostLaws) {value : Json} (h : value.Proper) :
    value.canonicalForm.reread.Proper where
  finite := finite_reread (finite_canonicalForm h.finite)
  normal := normal_reread (normal_canonicalForm laws.nfc_nfc value)
  distinct := distinct_reread _

/-- On proper values the canonical text tells the value: equal texts are of equal values, and
`JSON.parse` reads an equal value back. -/
theorem canonical_text_exact (laws : HostLaws) (parses : ParseLaws readNumber) :
    (∀ a b : Json, a.Proper → b.Proper →
      (a.canonicalizeJson = b.canonicalizeJson ↔ a.Equal b)) ∧
    ∀ a : Json, a.Proper → ∃ text value, a.canonicalizeJson = .ok text ∧
      Host.jsonParse text = some value ∧ value.Equal a := by
  refine ⟨fun a b ha hb => canonicalizeJson_eq_iff laws parses.readsNumbers ha hb,
    fun a ha => ⟨_, a.canonicalForm.reread, canonicalizeJson_of_finite ha.finite, ?_, ?_⟩⟩
  · rw [parses.jsonParse]
    exact parse_stringify laws.numberTexts parses.readsNumbers (finite_canonicalForm ha.finite)
  · have hreread := ha.reread laws
    rw [← canonicalizeJson_eq_iff laws parses.readsNumbers hreread ha,
      canonicalizeJson_of_finite hreread.finite, canonicalizeJson_of_finite ha.finite,
      stringify_canonicalForm_reread laws.zero ((sorted_canonicalForm_iff a).2 ha.orderKept)
        (normal_canonicalForm laws.nfc_nfc a)]

end Canonical

namespace EqualitySample

/-- Numbers other than zero are counted out; the sample prints zeros only. -/
def printNumber (n : JsNumber) : String :=
  if n.isZero then "0" else String.ofList (List.replicate n.bits.toNat '1')

def readNumber (text : String) : Option JsNumber :=
  if text = "0" then some ⟨0⟩ else some ⟨BitVec.ofNat 64 text.toList.length⟩

/-- The host functions on the sample values. -/
scoped instance host : Host where
  nfc s := s
  numberToString := printNumber
  jsonParse := parse readNumber

theorem toNat_ne_zero {n : JsNumber} (h : n.isZero = false) : n.bits.toNat ≠ 0 := by
  intro hzero
  have hbits : n = ⟨0⟩ := by
    cases n
    exact congrArg JsNumber.mk (BitVec.eq_of_toNat_eq hzero)
  rw [hbits] at h
  exact absurd h (by decide)

theorem printNumber_ne_empty (n : JsNumber) : printNumber n ≠ "" := by
  unfold printNumber
  cases h : n.isZero with
  | true => simp
  | false => simp [toNat_ne_zero h]

theorem host_laws : HostLaws := by
  refine ⟨fun _ => rfl, fun n _ => ⟨printNumber_ne_empty n, ?_⟩, fun n hn => if_pos hn⟩
  show ∀ c ∈ (printNumber n).toList, isNumberChar c = true
  unfold printNumber
  split_ifs
  · exact List.all_eq_true.1 (by decide)
  · rw [String.toList_ofList]
    intro c hc
    rw [(List.mem_replicate.1 hc).2]
    decide

theorem reads_numbers : ReadsNumbers readNumber := by
  intro n _
  show readNumber (printNumber n) = _
  unfold printNumber readNumber oneZero
  cases h : n.isZero with
  | true => rfl
  | false =>
    have hne : String.ofList (List.replicate n.bits.toNat '1') ≠ "0" := by
      intro heq
      have hzero : '0' ∈ (String.ofList (List.replicate n.bits.toNat '1')).toList := by
        rw [heq]
        decide
      rw [String.toList_ofList] at hzero
      exact absurd (List.mem_replicate.1 hzero).2 (by decide)
    simp [hne]

theorem parse_laws : ParseLaws readNumber := ⟨fun _ => rfl, reads_numbers⟩

/-- Two objects that differ in the order of members and the sign of a zero. -/
def left : Json := obj [("b", arr [num ⟨0⟩]), ("a", str "x")]

def right : Json := obj [("a", str "x"), ("b", arr [num ⟨0x8000000000000000⟩])]

theorem left_proper : left.Proper := by
  constructor <;> simp [left, Everywhere, EveryItem, FiniteHere, NormalHere,
    DistinctHere, JsonObject.keys, Host.nfc, JsNumber.isFinite]

theorem right_proper : right.Proper := by
  constructor <;> simp [right, Everywhere, EveryItem, FiniteHere, NormalHere,
    DistinctHere, JsonObject.keys, Host.nfc, JsNumber.isFinite]

theorem left_equal_right : left.Equal right := by
  rw [left, right, Equal, equalMembers_iff]
  refine ⟨fun key => by simp [JsonObject.keys, or_comm], ?_⟩
  rw [List.forall_mem_cons, List.forall_mem_singleton]
  refine ⟨⟨arr [num ⟨0x8000000000000000⟩], by simp, ?_⟩, ⟨str "x", by simp, ?_⟩⟩
  · rw [Equal, equalItems_iff]
    exact .cons (Or.inr ⟨by decide, by decide⟩) .nil
  · rw [Equal]

theorem canonical_text_exact_reordered :
    left.canonicalizeJson = right.canonicalizeJson ∧ ∃ text value,
      left.canonicalizeJson = .ok text ∧ Host.jsonParse text = some value ∧ value.Equal left := by
  obtain ⟨hexact, hread⟩ := canonical_text_exact host_laws parse_laws
  exact ⟨(hexact left right left_proper right_proper).2 left_equal_right, hread left left_proper⟩

end EqualitySample

end Json

end ChecksAndBalances
