import ChecksAndBalances.Verus.Denylist
import ChecksAndBalances.Verus.Equality
import Mathlib.Algebra.Order.BigOperators.Group.List
import Mathlib.Algebra.Order.Group.Nat

/-!
# Published names

The denylist is applied to the keys of a payload as they are, and the bytes hold their normal forms.
Normalization can compose a letter with a mark behind it to a letter outside ASCII, which the denylist
overlooks, so a name that was not denied may be published as one that is.
-/

namespace ChecksAndBalances

namespace Json

/-! ## Members that are left -/

theorem mem_setMember_iff {members : JsonObject} {m x : String × Json} :
    x ∈ setMember members m ↔ x = m ∨ (x ∈ members ∧ x.1 ≠ m.1) := by
  unfold setMember
  split_ifs with hkey
  · rw [List.mem_map]
    constructor
    · rintro ⟨old, hold, rfl⟩
      by_cases h : old.1 = m.1
      · exact Or.inl (if_pos h)
      · exact Or.inr (by rw [if_neg h]; exact ⟨hold, h⟩)
    · rintro (rfl | ⟨hx, hne⟩)
      · obtain ⟨old, hold, hsame⟩ := List.mem_map.1 hkey
        exact ⟨old, hold, if_pos hsame⟩
      · exact ⟨x, hx, if_neg hne⟩
  · rw [List.mem_append, List.mem_singleton]
    constructor
    · rintro (hx | rfl)
      · exact Or.inr ⟨hx, fun h => hkey (List.mem_map.2 ⟨x, hx, h⟩)⟩
      · exact Or.inl rfl
    · rintro (rfl | ⟨hx, -⟩)
      · exact Or.inr rfl
      · exact Or.inl hx

/-- The last member under each key is left. -/
theorem mem_foldl_setMember_iff {members : JsonObject} {x : String × Json} :
    x ∈ members.foldl setMember [] ↔
      ∃ before after, members = before ++ x :: after ∧ ∀ m ∈ after, m.1 ≠ x.1 := by
  induction members using List.reverseRecOn with
  | nil => simp
  | append_singleton members m ih =>
    rw [List.foldl_append, List.foldl_cons, List.foldl_nil, mem_setMember_iff, ih]
    constructor
    · rintro (rfl | ⟨⟨before, after, rfl, hafter⟩, hne⟩)
      · exact ⟨members, [], rfl, nofun⟩
      · refine ⟨before, after ++ [m], by simp, fun m' hm' => ?_⟩
        rcases List.mem_append.1 hm' with hm' | hm'
        · exact hafter m' hm'
        · rw [List.mem_singleton.1 hm']
          exact Ne.symm hne
    · rintro ⟨before, after, heq, hafter⟩
      rcases List.eq_nil_or_concat after with rfl | ⟨after, last, rfl⟩
      · left
        exact (List.cons.inj (List.append_inj_right' heq rfl)).1.symm
      · right
        rw [List.concat_eq_append, ← List.cons_append, ← List.append_assoc] at heq
        obtain ⟨rfl, hlast⟩ := List.append_inj' heq rfl
        obtain rfl := (List.cons.inj hlast).1
        exact ⟨⟨before, after, rfl, fun m' hm' => hafter m' (by simp [hm'])⟩,
          Ne.symm (hafter m (by simp))⟩

section Published

variable [Host]

/-- The member that is left under its normalized key: the last one of its kind in the order of the
keys. -/
structure Left (members : JsonObject) (m : String × Json) : Prop where
  mem : m ∈ members
  last : ∀ m' ∈ members, Host.nfc m'.1 = Host.nfc m.1 → ¬ KeyLt m.1 m'.1

/-- The value names a key in what is published of it. -/
inductive Publishes : Json → String → Prop
  | key {members : JsonObject} {m : String × Json} (left : Left members m) :
      Publishes (obj members) (Host.nfc m.1)
  | item {items : List Json} {item : Json} {name : String} (mem : item ∈ items)
      (published : Publishes item name) : Publishes (arr items) name
  | member {members : JsonObject} {m : String × Json} {name : String} (left : Left members m)
      (published : Publishes m.2 name) : Publishes (obj members) name

theorem publishes_arr_iff {items : List Json} {name : String} :
    Publishes (arr items) name ↔ ∃ item ∈ items, Publishes item name := by
  constructor
  · rintro (_ | ⟨hmem, hpublished⟩)
    exact ⟨_, hmem, hpublished⟩
  · rintro ⟨item, hmem, hpublished⟩
    exact .item hmem hpublished

theorem publishes_obj_iff {members : JsonObject} {name : String} :
    Publishes (obj members) name ↔
      ∃ m, Left members m ∧ (name = Host.nfc m.1 ∨ Publishes m.2 name) := by
  constructor
  · rintro (hleft | _ | ⟨hleft, hpublished⟩)
    · exact ⟨_, hleft, Or.inl rfl⟩
    · exact ⟨_, hleft, Or.inr hpublished⟩
  · rintro ⟨m, hleft, rfl | hpublished⟩
    · exact .key hleft
    · exact .member hleft hpublished

/-- What is read back of the members of a canonical form. -/
theorem reread_canonicalForm_obj {members : JsonObject} (hkeys : members.keys.Nodup) :
    ∃ members' : JsonObject, (obj members).canonicalForm.reread = obj members' ∧
      ∀ x, x ∈ members' ↔ ∃ m, Left members m ∧ x = (Host.nfc m.1, m.2.canonicalForm.reread) := by
  have hsorted : StrictKeys (sortMembers members) := strictKeys_sortMembers hkeys
  have hlist : mapValues reread ((sortMembers (mapValues canonicalForm members)).map
      fun m => (Host.nfc m.1, m.2)) =
      (sortMembers members).map fun m => (Host.nfc m.1, m.2.canonicalForm.reread) := by
    rw [sortMembers_mapValues, mapValues, mapValues, List.map_map, List.map_map]
    rfl
  refine ⟨_, by rw [canonicalForm_obj, reread, rereadMembers_eq_mapValues, hlist], fun x => ?_⟩
  rw [(ownOrder_perm _).mem_iff, mem_foldl_setMember_iff]
  constructor
  · rintro ⟨before, after, heq, hafter⟩
    obtain ⟨before', rest, hsplit, rfl, hrest⟩ := List.map_eq_append_iff.1 heq
    obtain ⟨m, after', rfl, rfl, rfl⟩ := List.map_eq_cons_iff.1 hrest
    have hm : m ∈ sortMembers members := by simp [hsplit]
    refine ⟨m, ⟨(sortMembers_perm members).mem_iff.1 hm, fun m' hm' hsame hlt => ?_⟩, rfl⟩
    -- A later key stands behind the member.
    have hm'sorted := (sortMembers_perm members).mem_iff.2 hm'
    rw [hsplit, List.mem_append, List.mem_cons] at hm'sorted
    rw [hsplit, StrictKeys, List.pairwise_append] at hsorted
    obtain ⟨-, -, hbefore⟩ := hsorted
    rcases hm'sorted with hearlier | rfl | hlater
    · have hback := hbefore m' hearlier m List.mem_cons_self
      exact lt_asymm (keyLt_iff.1 hlt) (keyLt_iff.1 hback)
    · exact not_keyLt_self _ hlt
    · exact hafter _ (List.mem_map_of_mem hlater) hsame
  · rintro ⟨m, hleft, rfl⟩
    obtain ⟨before, after, hsplit⟩ :=
      List.append_of_mem ((sortMembers_perm members).mem_iff.2 hleft.mem)
    refine ⟨_, _, by rw [hsplit, List.map_append, List.map_cons], ?_⟩
    intro x hx hsame
    obtain ⟨m', hm', rfl⟩ := List.mem_map.1 hx
    rw [hsplit, StrictKeys, List.pairwise_append, List.pairwise_cons] at hsorted
    have hmem : m' ∈ members := (sortMembers_perm members).mem_iff.1 (by simp [hsplit, hm'])
    exact hleft.last m' hmem hsame (hsorted.2.1.1 m' hm')

theorem reread_canonicalForm_arr (items : List Json) :
    (arr items).canonicalForm.reread = arr (items.map fun item => item.canonicalForm.reread) := by
  rw [canonicalForm, canonicalItems_eq_map, reread, rereadItems_eq_map, List.map_map]
  rfl

omit [Host] in
theorem namesAllowed_obj_iff {members : JsonObject} :
    NamesAllowed (obj members) ↔ ∀ m ∈ members, normalizedField m.1 ∉ deniedNames := by
  simp only [NamesAllowed, NoneDenied, decide_eq_false_iff_not]

/-- What is read back names no denied field exactly when none is published. -/
theorem namesAllowed_reread_iff {value : Json} (h : value.Everywhere DistinctHere) :
    value.canonicalForm.reread.Everywhere NamesAllowed ↔
      ∀ name, Publishes value name → normalizedField name ∉ deniedNames := by
  induction value using parts_induction with
  | null => exact iff_of_true trivial fun name hpublished => by cases hpublished
  | bool b => exact iff_of_true trivial fun name hpublished => by cases hpublished
  | num n => exact iff_of_true trivial fun name hpublished => by cases hpublished
  | str s => exact iff_of_true trivial fun name hpublished => by cases hpublished
  | arr items ih =>
    obtain ⟨-, hitems⟩ := everywhere_arr.1 h
    rw [reread_canonicalForm_arr, everywhere_arr]
    simp only [List.forall_mem_map, publishes_arr_iff]
    constructor
    · rintro ⟨-, hclean⟩ name ⟨item, hitem, hpublished⟩
      exact (ih item hitem (hitems item hitem)).1 (hclean item hitem) name hpublished
    · intro hclean
      refine ⟨trivial, fun item hitem => (ih item hitem (hitems item hitem)).2 ?_⟩
      exact fun name hpublished => hclean name ⟨item, hitem, hpublished⟩
  | obj members ih =>
    obtain ⟨hkeys, hmembers⟩ := everywhere_obj.1 h
    obtain ⟨members', heq, hmem⟩ := reread_canonicalForm_obj hkeys
    rw [heq, everywhere_obj, namesAllowed_obj_iff]
    simp only [publishes_obj_iff]
    constructor
    · rintro ⟨hnames, hclean⟩ name ⟨m, hleft, rfl | hpublished⟩
      · exact hnames (Host.nfc m.1, m.2.canonicalForm.reread) ((hmem _).2 ⟨m, hleft, rfl⟩)
      · have hread := hclean _ ((hmem _).2 ⟨m, hleft, rfl⟩)
        exact (ih m hleft.mem (hmembers m hleft.mem)).1 hread name hpublished
    · intro hclean
      constructor
      · intro x hx
        obtain ⟨m, hleft, rfl⟩ := (hmem x).1 hx
        exact hclean _ ⟨m, hleft, Or.inl rfl⟩
      · intro x hx
        obtain ⟨m, hleft, rfl⟩ := (hmem x).1 hx
        refine (ih m hleft.mem (hmembers m hleft.mem)).2 fun name hpublished => ?_
        exact hclean name ⟨m, hleft, Or.inr hpublished⟩

/-- Nothing is nested deeper than it was. -/
theorem nesting_reread_le {value : Json} (h : value.Everywhere DistinctHere) :
    value.canonicalForm.reread.nesting ≤ value.nesting := by
  induction value using parts_induction with
  | null => exact le_rfl
  | bool b => exact le_rfl
  | num n => exact le_rfl
  | str s => exact le_rfl
  | arr items ih =>
    obtain ⟨-, hitems⟩ := everywhere_arr.1 h
    rw [reread_canonicalForm_arr, nesting, nesting, nestingItems_le_iff, List.forall_mem_map]
    intro item hitem
    have hdeep := nestingItems_le_iff.1 (le_refl (nestingItems items)) item hitem
    have hle := ih item hitem (hitems item hitem)
    omega
  | obj members ih =>
    obtain ⟨hkeys, hmembers⟩ := everywhere_obj.1 h
    obtain ⟨members', heq, hmem⟩ := reread_canonicalForm_obj hkeys
    rw [heq, nesting, nesting, nestingMembers_le_iff]
    intro x hx
    obtain ⟨m, hleft, rfl⟩ := (hmem x).1 hx
    have hdeep := nestingMembers_le_iff.1 (le_refl (nestingMembers members)) m hleft.mem
    have hle := ih m hleft.mem (hmembers m hleft.mem)
    show m.2.canonicalForm.reread.nesting + 1 ≤ _
    omega

/-! ## Lengths -/

omit [Host] in
theorem length_encodeUtf8_append (s t : String) :
    (encodeUtf8 (s ++ t)).length = (encodeUtf8 s).length + (encodeUtf8 t).length := by
  simp [encodeUtf8]

omit [Host] in
theorem length_encodeUtf8_intercalate (texts : List String) :
    (encodeUtf8 (",".intercalate texts)).length =
      (texts.map fun text => (encodeUtf8 text).length + 1).sum - 1 := by
  induction texts with
  | nil => rfl
  | cons text texts ih =>
    cases texts with
    | nil => simp
    | cons next texts =>
      rw [String.intercalate_cons_cons, length_encodeUtf8_append, length_encodeUtf8_append, ih]
      simp only [List.map_cons, List.sum_cons]
      have hcomma : (encodeUtf8 ",").length = 1 := by decide
      omega

/-- The number of bytes of the text of a value. -/
def byteLength (value : Json) : ℕ := (encodeUtf8 value.stringify).length

/-- The bytes of a member with the comma behind it. -/
def memberLength (m : String × Json) : ℕ :=
  (encodeUtf8 (quote m.1 ++ ":")).length + m.2.byteLength + 1

theorem byteLength_arr (items : List Json) :
    (arr items).byteLength = 2 + ((items.map fun item => item.byteLength + 1).sum - 1) := by
  rw [byteLength, stringify, stringifyItems_eq_map, length_encodeUtf8_append,
    length_encodeUtf8_append, length_encodeUtf8_intercalate, List.map_map,
    show (encodeUtf8 "[").length = 1 by decide, show (encodeUtf8 "]").length = 1 by decide]
  simp only [Function.comp_def, byteLength]
  omega

theorem byteLength_obj (members : JsonObject) :
    (obj members).byteLength = 2 + ((members.map memberLength).sum - 1) := by
  have hlength : ∀ m : String × Json,
      (encodeUtf8 (quote m.1 ++ ":" ++ m.2.stringify)).length + 1 = memberLength m := by
    intro m
    rw [length_encodeUtf8_append, memberLength, byteLength]
  rw [byteLength, stringify, stringifyMembers_eq_map, length_encodeUtf8_append,
    length_encodeUtf8_append, length_encodeUtf8_intercalate, List.map_map,
    show (encodeUtf8 "\x7b").length = 1 by decide, show (encodeUtf8 "\x7d").length = 1 by decide]
  rw [Function.comp_def, funext hlength]
  omega

theorem byteLength_canonicalForm_obj (members : JsonObject) :
    (obj members).canonicalForm.byteLength =
      2 + ((members.map fun m => memberLength (Host.nfc m.1, m.2.canonicalForm)).sum - 1) := by
  have hperm : (((sortMembers (mapValues canonicalForm members)).map
        fun m => memberLength (Host.nfc m.1, m.2)).sum) =
      ((mapValues canonicalForm members).map fun m => memberLength (Host.nfc m.1, m.2)).sum :=
    ((sortMembers_perm _).map _).sum_nat
  rw [mapValues, List.map_map] at hperm
  rw [canonicalForm_obj, byteLength_obj, List.map_map]
  exact congrArg (fun total => 2 + (total - 1)) hperm

omit [Host] in
/-- Different members of a list count for no more than the whole list. -/
theorem sum_map_le_of_subset {α : Type} {f : α → ℕ} {l₁ l₂ : List α} (hnodup : l₁.Nodup)
    (hsub : l₁ ⊆ l₂) : (l₁.map f).sum ≤ (l₂.map f).sum := by
  obtain ⟨l, hperm, hsublist⟩ := hnodup.subperm hsub
  rw [← (hperm.map f).sum_nat]
  exact (hsublist.map f).sum_le_sum fun _ _ => Nat.zero_le _

/-- The canonical form of what is read back is no longer than the form itself. -/
theorem byteLength_reread_le (laws : HostLaws) (value : Json) (h : value.Everywhere DistinctHere) :
    value.canonicalForm.reread.canonicalForm.byteLength ≤ value.canonicalForm.byteLength := by
  induction value using parts_induction with
  | null => exact le_rfl
  | bool b => exact le_rfl
  | num n =>
    refine le_of_eq (congrArg (fun text => (encodeUtf8 text).length) ?_)
    show Host.numberToString (oneZero n) = Host.numberToString n
    unfold oneZero
    split_ifs with hzero
    · rw [laws.zero n hzero, laws.zero ⟨0⟩ (by decide)]
    · rfl
  | str s =>
    refine le_of_eq (congrArg (fun text => (encodeUtf8 (quote text)).length) ?_)
    exact laws.nfc_nfc s
  | arr items ih =>
    obtain ⟨-, hitems⟩ := everywhere_arr.1 h
    have hsum : ((items.map fun item =>
          item.canonicalForm.reread.canonicalForm.byteLength + 1).sum) ≤
        (items.map fun item => item.canonicalForm.byteLength + 1).sum :=
      List.sum_le_sum fun item hitem => Nat.succ_le_succ (ih item hitem (hitems item hitem))
    rw [reread_canonicalForm_arr, canonicalForm, canonicalItems_eq_map, canonicalForm,
      canonicalItems_eq_map, byteLength_arr, byteLength_arr, List.map_map, List.map_map, List.map_map]
    simp only [Function.comp_def]
    omega
  | obj members ih =>
    obtain ⟨hkeys, hmembers⟩ := everywhere_obj.1 h
    obtain ⟨members', heq, hmem⟩ := reread_canonicalForm_obj hkeys
    have hdistinct := distinct_reread (obj members).canonicalForm
    rw [heq, everywhere_obj] at hdistinct
    have hsub : members' ⊆ members.map fun m => (Host.nfc m.1, m.2.canonicalForm.reread) := by
      intro x hx
      obtain ⟨m, hleft, rfl⟩ := (hmem x).1 hx
      exact List.mem_map_of_mem hleft.mem
    have hless := sum_map_le_of_subset
      (f := fun x => memberLength (Host.nfc x.1, x.2.canonicalForm)) hdistinct.1.of_map hsub
    have hsum : ((members.map fun m => memberLength
          (Host.nfc (Host.nfc m.1), m.2.canonicalForm.reread.canonicalForm)).sum) ≤
        (members.map fun m => memberLength (Host.nfc m.1, m.2.canonicalForm)).sum := by
      refine List.sum_le_sum fun m hm => ?_
      have hle := ih m hm (hmembers m hm)
      simp only [memberLength, laws.nfc_nfc]
      omega
    rw [List.map_map] at hless
    rw [heq, byteLength_canonicalForm_obj, byteLength_canonicalForm_obj]
    exact Nat.add_le_add_left (Nat.sub_le_sub_right (hless.trans hsum) 1) 2

end Published

end Json

/-! ## The published payload -/

section Payload

variable [Host] {readNumber : String → Option JsNumber} {value : JsonObject}
  {policy : CanonicalPayloadPolicy} {payload : CanonicalPayload}

/-- The value that a reader decodes from the bytes of a payload. -/
def CanonicalPayload.decoded (payload : CanonicalPayload)
    (readNumber : String → Option JsNumber) : Option Json :=
  (decodeText payload.bytes).bind (Json.parse readNumber)

/-- The decoded value is the canonical form, read back. -/
theorem decoded_eq (hnumbers : Json.NumberTexts) (hread : Json.ReadsNumbers readNumber)
    (h : prepareCanonicalPayload value policy = .ok payload) :
    payload.decoded readNumber = some (Json.obj value).canonicalForm.reread := by
  obtain ⟨text, htext, hbytes, -⟩ := prepareCanonicalPayload_spec h
  have hfinite := Json.finite_of_canonicalizeJson htext
  obtain rfl : (Json.obj value).canonicalForm.stringify = text :=
    Except.ok.inj ((Json.canonicalizeJson_of_finite hfinite).symm.trans htext)
  have hround : decodeText payload.bytes = some (Json.obj value).canonicalForm.stringify := by
    rw [hbytes]
    refine decodeText_encodeUtf8 fun c hc => ?_
    rw [canonicalizeJson_obj_head htext] at hc
    cases hc
    decide
  rw [CanonicalPayload.decoded, hround]
  exact Json.parse_stringify hnumbers hread (Json.finite_canonicalForm hfinite)

omit [Host] in
theorem of_demand_ok {condition : Bool} {code : VerusErrorCode} {message : String}
    (h : demand condition code message = .ok ()) : condition = true := by
  unfold demand at h
  split_ifs at h with hcondition
  exact hcondition

/-- What a payload passed before it was prepared. -/
theorem accepted_of_prepare (h : prepareCanonicalPayload value policy = .ok payload) :
    (isSafeInteger policy.maximumBytes && 1 ≤ policy.maximumBytes) = true ∧
      (Json.obj value).nesting ≤ 32 ∧
      (Json.obj value).canonicalForm.byteLength ≤ policy.maximumBytes := by
  obtain ⟨text, htext, hbytes, -⟩ := prepareCanonicalPayload_spec h
  obtain rfl : (Json.obj value).canonicalForm.stringify = text :=
    Except.ok.inj ((Json.canonicalizeJson_of_finite (Json.finite_of_canonicalizeJson htext)).symm.trans
      htext)
  unfold prepareCanonicalPayload at h
  obtain ⟨⟨⟩, hmaximum, h⟩ := bind_ok h
  obtain ⟨-, -, h⟩ := bind_ok h
  obtain ⟨⟨⟩, hplain, h⟩ := bind_ok h
  obtain ⟨text, hcanonical, h⟩ := bind_ok h
  obtain rfl := Except.ok.inj (hcanonical.symm.trans htext)
  obtain ⟨⟨⟩, hsize, -⟩ := bind_ok h
  rw [Json.rejectForbiddenFields_eq, Json.rejectForbiddenFieldsAt_ok_iff, Nat.zero_add] at hplain
  exact ⟨of_demand_ok hmaximum, hplain.1, of_decide_eq_true (of_demand_ok hsize)⟩

/-- The policy with the top-level fields of another value. -/
def CanonicalPayloadPolicy.naming (policy : CanonicalPayloadPolicy) (value : JsonObject) :
    CanonicalPayloadPolicy :=
  { policy with allowedTopLevelFields := value.keys, requiredTopLevelFields := value.keys }

/-- The decoded value of a payload names no denied field, and is accepted as a payload again,
exactly when no key that is left of the payload is denied in its normal form. -/
theorem published_names_iff (laws : HostLaws) (hread : Json.ReadsNumbers readNumber)
    (hkeys : (Json.obj value).Everywhere Json.DistinctHere)
    (h : prepareCanonicalPayload value policy = .ok payload) :
    ∃ decoded : JsonObject, payload.decoded readNumber = some (.obj decoded) ∧
      ((Json.obj decoded).Everywhere Json.NamesAllowed ↔
        ∀ name, (Json.obj value).Publishes name → Json.normalizedField name ∉ Json.deniedNames) ∧
      ((∃ again, prepareCanonicalPayload decoded (policy.naming decoded) = .ok again) ↔
        ∀ name, (Json.obj value).Publishes name → Json.normalizedField name ∉ Json.deniedNames) := by
  have hnames := Json.namesAllowed_reread_iff hkeys
  have hdepth := Json.nesting_reread_le hkeys
  have hlength := Json.byteLength_reread_le laws (Json.obj value) hkeys
  have hdecoded := decoded_eq laws.numberTexts hread h
  obtain ⟨hmaximum, hnesting, hsize⟩ := accepted_of_prepare h
  have hfinite : (Json.obj value).canonicalForm.reread.Everywhere Json.FiniteHere := by
    obtain ⟨text, htext, -⟩ := prepareCanonicalPayload_spec h
    exact Json.finite_reread (Json.finite_canonicalForm (Json.finite_of_canonicalizeJson htext))
  obtain ⟨decoded, heq, -⟩ := Json.reread_canonicalForm_obj (Json.everywhere_obj.1 hkeys).1
  rw [heq] at hnames hdepth hlength hdecoded hfinite
  refine ⟨decoded, hdecoded, hnames, ?_⟩
  rw [← hnames]
  constructor
  · rintro ⟨again, hagain⟩
    unfold prepareCanonicalPayload at hagain
    obtain ⟨-, -, hagain⟩ := bind_ok hagain
    obtain ⟨-, -, hagain⟩ := bind_ok hagain
    obtain ⟨⟨⟩, hplain, -⟩ := bind_ok hagain
    rw [Json.rejectForbiddenFields_eq, Json.rejectForbiddenFieldsAt_ok_iff] at hplain
    exact hplain.2
  · intro hclean
    have hplain : Json.rejectForbiddenFieldsAt 0 (Json.obj decoded) = .ok () :=
      Json.rejectForbiddenFieldsAt_ok_iff.2 ⟨by omega, hclean⟩
    rw [← Json.rejectForbiddenFields_eq] at hplain
    refine ⟨_, prepareCanonicalPayload_ok hmaximum ?_ hplain
      (Json.canonicalizeJson_of_finite hfinite) (decide_eq_true ?_)⟩
    · rw [Bool.and_eq_true, List.all_eq_true, List.all_eq_true]
      exact ⟨fun key hkey => decide_eq_true hkey, fun key hkey => decide_eq_true hkey⟩
    · exact le_trans (Int.ofNat_le.2 hlength) hsize

end Payload

namespace PublishedSample

/-- The host functions, with the composition of one letter. -/
scoped instance host : Host where
  nfc s := if s = "wix\u0308f" then "wi\u1e8df" else s
  numberToString := Json.EqualitySample.printNumber
  jsonParse := Json.parse Json.EqualitySample.readNumber

theorem number_texts : Json.NumberTexts := by
  intro n hn
  exact @HostLaws.numberTexts Json.EqualitySample.host Json.EqualitySample.host_laws n hn

theorem host_laws : HostLaws := by
  refine ⟨fun s => ?_, number_texts, fun n hn => if_pos hn⟩
  show (if (if s = "wix\u0308f" then "wi\u1e8df" else s) = "wix\u0308f" then _ else _) = _
  by_cases h : s = "wix\u0308f"
  · rw [if_pos h, if_neg (by decide)]
  · rw [if_neg h, if_neg h]

theorem reads_numbers : Json.ReadsNumbers Json.EqualitySample.readNumber :=
  @Json.EqualitySample.reads_numbers

def policy : CanonicalPayloadPolicy :=
  { policyReference := "cbc.anchor.manifest.v1"
    allowedTopLevelFields := ["a"]
    requiredTopLevelFields := ["a"]
    maximumBytes := 2048 }

/-- A member with one key in an object. -/
def nested (key : String) : JsonObject := [("a", .obj [(key, .null)])]

def payload (key text : String) : CanonicalPayload :=
  { value := nested key, bytes := encodeUtf8 text, digest := sha256 text
    policyReference := "cbc.anchor.manifest.v1" }

theorem prepare_plain : prepareCanonicalPayload (nested "b") policy =
    .ok (payload "b" "\x7b\"a\":\x7b\"b\":null\x7d\x7d") :=
  prepareCanonicalPayload_ok (by decide) (by decide) rfl rfl (by decide)

theorem prepare_composed : prepareCanonicalPayload (nested "wix\u0308f") policy =
    .ok (payload "wix\u0308f" "\x7b\"a\":\x7b\"wi\u1e8df\":null\x7d\x7d") :=
  prepareCanonicalPayload_ok (by decide) (by decide) rfl rfl (by decide)

theorem distinct_nested (key : String) : (Json.obj (nested key)).Everywhere Json.DistinctHere := by
  simp [nested, Json.Everywhere, Json.EveryMember, Json.DistinctHere, JsonObject.keys]

theorem published_nested {key name : String} (h : (Json.obj (nested key)).Publishes name) :
    name = Host.nfc "a" ∨ name = Host.nfc key := by
  obtain ⟨outer, houter, hname⟩ := Json.publishes_obj_iff.1 h
  obtain rfl := List.mem_singleton.1 houter.mem
  rcases hname with rfl | hname
  · exact Or.inl rfl
  · obtain ⟨inner, hinner, hname⟩ := Json.publishes_obj_iff.1 hname
    obtain rfl := List.mem_singleton.1 hinner.mem
    rcases hname with rfl | hname
    · exact Or.inr rfl
    · cases hname

theorem published_names_iff_plain : ∃ decoded : JsonObject,
    (payload "b" "\x7b\"a\":\x7b\"b\":null\x7d\x7d").decoded Json.EqualitySample.readNumber =
      some (.obj decoded) ∧
    ∃ again, prepareCanonicalPayload decoded (policy.naming decoded) = .ok again := by
  obtain ⟨decoded, hdecoded, -, hagain⟩ :=
    published_names_iff host_laws reads_numbers (distinct_nested "b") prepare_plain
  refine ⟨decoded, hdecoded, hagain.2 fun name hname => ?_⟩
  rcases published_nested hname with rfl | rfl <;> decide

/-- The key with the letter and its mark passes, and the composed key that is published is denied. -/
theorem wif_published : HostLaws ∧ Json.ReadsNumbers Json.EqualitySample.readNumber ∧
    ∃ payload, prepareCanonicalPayload (nested "wix\u0308f") policy = .ok payload ∧
      ∃ decoded : JsonObject, payload.decoded Json.EqualitySample.readNumber = some (.obj decoded) ∧
        ¬ (Json.obj decoded).Everywhere Json.NamesAllowed ∧
        ¬ ∃ again, prepareCanonicalPayload decoded (policy.naming decoded) = .ok again := by
  refine ⟨host_laws, reads_numbers, _, prepare_composed, nested "wi\u1e8df",
    decoded_eq number_texts reads_numbers prepare_composed, fun hclean => ?_, ?_⟩
  · obtain ⟨-, hinner⟩ := Json.everywhere_obj.1 hclean
    have hkey := Json.namesAllowed_obj_iff.1 (Json.everywhere_obj.1 (hinner _ List.mem_cons_self)).1
    exact hkey _ List.mem_cons_self (by decide)
  · rintro ⟨again, hagain⟩
    cases hagain

end PublishedSample

end ChecksAndBalances
