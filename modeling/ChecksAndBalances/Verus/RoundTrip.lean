import ChecksAndBalances.Verus.CanonicalForm
import ChecksAndBalances.Verus.RpcAdapter

/-!
# Write and read back

A text of `JSON.stringify` can be read in one way only, so the canonical text of a payload is its own
canonical text again exactly when its members are in strict order.  Then, and only then, a payload
that was written to an identity is found there again.
-/

namespace ChecksAndBalances

namespace Json

/-! ## Reading a text in one way -/

/-- Read one character of a string literal. -/
def readChar : List Char → Option (Char × List Char)
  | '\\' :: 'u' :: '0' :: '0' :: a :: b :: rest => do
    return (Char.ofNat ((← hexValue a) * 16 + (← hexValue b)), rest)
  | '\\' :: 'b' :: rest => some (Char.ofNat 8, rest)
  | '\\' :: 't' :: rest => some (Char.ofNat 9, rest)
  | '\\' :: 'n' :: rest => some (Char.ofNat 10, rest)
  | '\\' :: 'f' :: rest => some (Char.ofNat 12, rest)
  | '\\' :: 'r' :: rest => some (Char.ofNat 13, rest)
  | '\\' :: c :: rest => some (c, rest)
  | c :: rest => some (c, rest)
  | [] => none

/-- The escapes, case by case. -/
theorem escapeChar_cases {P : List Char → Prop} (c : Char) (quote : c = '"' → P ['\\', '"'])
    (backslash : c = '\\' → P ['\\', '\\'])
    (letter : ∀ e ∈ [(8, 'b'), (9, 't'), (10, 'n'), (12, 'f'), (13, 'r')], c.toNat = e.1 →
      P ['\\', e.2])
    (code : c.toNat < 32 →
      P ['\\', 'u', '0', '0', hexDigit (c.toNat / 16), hexDigit (c.toNat % 16)])
    (plain : c ≠ '"' → c ≠ '\\' → ¬ c.toNat < 32 → P [c]) : P (escapeChar c) :=
  iteInduction quote fun hquote => iteInduction backslash fun hbackslash =>
    iteInduction (letter (8, 'b') (by simp)) fun _ =>
    iteInduction (letter (9, 't') (by simp)) fun _ =>
    iteInduction (letter (10, 'n') (by simp)) fun _ =>
    iteInduction (letter (12, 'f') (by simp)) fun _ =>
    iteInduction (letter (13, 'r') (by simp)) fun _ =>
    iteInduction code (plain hquote hbackslash)

theorem readChar_escapeChar (c : Char) (rest : List Char) :
    readChar (escapeChar c ++ rest) = some (c, rest) := by
  have hof : Char.ofNat c.toNat = c := Char.ofNat_toNat c
  refine escapeChar_cases (P := fun cs => readChar (cs ++ rest) = some (c, rest)) c ?_ ?_ ?_ ?_ ?_
  · rintro rfl
    rfl
  · rintro rfl
    rfl
  · intro e he hc
    rw [← hof, hc]
    simp only [List.mem_cons, List.not_mem_nil, or_false] at he
    rcases he with rfl | rfl | rfl | rfl | rfl <;> rfl
  · intro hlow
    show (do return (Char.ofNat ((← hexValue (hexDigit (c.toNat / 16))) * 16 +
      (← hexValue (hexDigit (c.toNat % 16)))), rest)) = _
    rw [hexValue_hexDigit _ (by omega), hexValue_hexDigit _ (by omega)]
    show some (Char.ofNat (c.toNat / 16 * 16 + c.toNat % 16), rest) = _
    rw [show c.toNat / 16 * 16 + c.toNat % 16 = c.toNat by omega, hof]
  · intro _ hbackslash _
    rw [List.cons_append, List.nil_append, readChar]
    all_goals
      intros
      contradiction

theorem escapeChar_append_inj {c d : Char} {x y : List Char}
    (h : escapeChar c ++ x = escapeChar d ++ y) : c = d ∧ x = y := by
  have hread := readChar_escapeChar c x
  rw [h, readChar_escapeChar, Option.some.injEq, Prod.mk.injEq] at hread
  exact ⟨hread.1.symm, hread.2.symm⟩

/-- An escaped character does not end a literal. -/
theorem escapeChar_append_ne (c : Char) (x y : List Char) : '"' :: x ≠ escapeChar c ++ y := by
  refine escapeChar_cases (P := fun cs => '"' :: x ≠ cs ++ y) c ?_ ?_ ?_ ?_ ?_
  · exact fun _ h => absurd (List.cons.inj h).1 (by decide)
  · exact fun _ h => absurd (List.cons.inj h).1 (by decide)
  · exact fun _ _ _ h => absurd (List.cons.inj h).1 (by decide)
  · exact fun _ h => absurd (List.cons.inj h).1 (by decide)
  · exact fun hquote _ _ h => hquote (List.cons.inj h).1.symm

theorem quote_toList (s : String) :
    (quote s).toList = '"' :: (s.toList.flatMap escapeChar ++ ['"']) := by
  rw [quote, String.toList_ofList, List.cons_append]

theorem escape_append_inj {as bs x y : List Char}
    (h : as.flatMap escapeChar ++ '"' :: x = bs.flatMap escapeChar ++ '"' :: y) :
    as = bs ∧ x = y := by
  induction as generalizing bs with
  | nil =>
    cases bs with
    | nil =>
      rw [List.flatMap_nil, List.nil_append, List.nil_append, List.cons.injEq] at h
      exact ⟨rfl, h.2⟩
    | cons b bs =>
      rw [List.flatMap_nil, List.nil_append, List.flatMap_cons, List.append_assoc] at h
      exact absurd h (escapeChar_append_ne b _ _)
  | cons a as ih =>
    cases bs with
    | nil =>
      rw [List.flatMap_nil, List.nil_append, List.flatMap_cons, List.append_assoc] at h
      exact absurd h.symm (escapeChar_append_ne a _ _)
    | cons b bs =>
      rw [List.flatMap_cons, List.flatMap_cons, List.append_assoc, List.append_assoc] at h
      obtain ⟨rfl, hrest⟩ := escapeChar_append_inj h
      obtain ⟨rfl, htail⟩ := ih hrest
      exact ⟨rfl, htail⟩

theorem quote_append_inj {s t : String} {x y : List Char}
    (h : (quote s).toList ++ x = (quote t).toList ++ y) : s = t ∧ x = y := by
  rw [quote_toList, quote_toList, List.cons_append, List.cons_append, List.cons.injEq,
    List.append_assoc, List.append_assoc] at h
  obtain ⟨hchars, hrest⟩ := escape_append_inj h.2
  exact ⟨String.toList_inj.1 hchars, hrest⟩

/-- What follows a value inside a text. -/
def Stops (rest : List Char) : Prop := ∀ c, rest.head? = some c → c ∈ [',', ']', '\x7d']

/-- The characters of a printed number. -/
def isNumberChar (c : Char) : Bool := ('0' ≤ c && c ≤ '9') || c ∈ ['+', '-', '.', 'e']

theorem number_append_inj {xs ys r r' : List Char} (hxs : ∀ c ∈ xs, isNumberChar c = true)
    (hys : ∀ c ∈ ys, isNumberChar c = true) (hr : Stops r) (hr' : Stops r')
    (h : xs ++ r = ys ++ r') : r = r' := by
  have hstop : ∀ {rest : List Char} {c : Char} {tail : List Char}, Stops rest →
      isNumberChar c = true → rest ≠ c :: tail := by
    rintro rest c tail hrest hc rfl
    have hmem := hrest c rfl
    simp only [List.mem_cons, List.not_mem_nil, or_false] at hmem
    rcases hmem with rfl | rfl | rfl <;> revert hc <;> decide
  induction xs generalizing ys with
  | nil =>
    cases ys with
    | nil => exact h
    | cons y ys => exact absurd h (hstop hr (hys y List.mem_cons_self))
  | cons x xs ih =>
    cases ys with
    | nil => exact absurd h.symm (hstop hr' (hxs x List.mem_cons_self))
    | cons y ys =>
      rw [List.cons_append, List.cons_append, List.cons.injEq] at h
      exact ih (fun c hc => hxs c (List.mem_cons_of_mem _ hc))
        (fun c hc => hys c (List.mem_cons_of_mem _ hc)) h.2

/-! ## Lists -/

/-- Entries after the first one. -/
def tailText {α : Type} (print : α → List Char) (entries : List α) : List Char :=
  entries.flatMap fun entry => ',' :: print entry

theorem intercalate_toList {α : Type} (print : α → String) (first : α) (entries : List α) :
    (",".intercalate ((first :: entries).map print)).toList =
      (print first).toList ++ tailText (fun entry => (print entry).toList) entries := by
  rw [String.toList_intercalate]
  induction entries generalizing first with
  | nil => simp [tailText]
  | cons second entries ih =>
    have hih := ih second
    simp only [List.map_cons, tailText, List.flatMap_cons] at hih ⊢
    rw [List.intercalate_cons_cons, hih]
    simp

section Lists

variable {α : Type} {print : α → List Char} {same : α → α → Prop} {stop : Char}

/-- Two lists of entries that are read in one way. -/
theorem tailText_append_inj (hstop : stop ∈ [']', '\x7d']) {as bs : List α}
    (hread : ∀ a ∈ as, ∀ b ∈ bs, ∀ x y, Stops x → Stops y → print a ++ x = print b ++ y →
      same a b ∧ x = y) {x y : List Char}
    (h : tailText print as ++ stop :: x = tailText print bs ++ stop :: y) :
    List.Forall₂ same as bs ∧ x = y := by
  have hne : stop ≠ ',' := by
    simp only [List.mem_cons, List.not_mem_nil, or_false] at hstop
    rcases hstop with rfl | rfl <;> decide
  -- The rest of a list stops the entry before it.
  have hstops : ∀ (cs : List α) z, Stops (tailText print cs ++ stop :: z) := by
    intro cs z c hc
    cases cs with
    | nil =>
      obtain rfl : stop = c := Option.some.inj hc
      exact List.mem_cons_of_mem _ hstop
    | cons first rest =>
      obtain rfl : ',' = c := Option.some.inj hc
      exact List.mem_cons_self
  induction as generalizing bs with
  | nil =>
    cases bs with
    | nil => exact ⟨.nil, (List.cons.inj h).2⟩
    | cons b bs => exact absurd (List.cons.inj h).1 hne
  | cons a as ih =>
    cases bs with
    | nil => exact absurd (List.cons.inj h).1.symm hne
    | cons b bs =>
      have htext : print a ++ (tailText print as ++ stop :: x) =
          print b ++ (tailText print bs ++ stop :: y) := by
        simpa [tailText] using h
      obtain ⟨hsame, hrest⟩ := hread a List.mem_cons_self b List.mem_cons_self _ _ (hstops as x)
        (hstops bs y) htext
      obtain ⟨hall, htail⟩ := ih (fun a' ha' b' hb' =>
        hread a' (List.mem_cons_of_mem _ ha') b' (List.mem_cons_of_mem _ hb')) hrest
      exact ⟨.cons hsame hall, htail⟩

/-- The same for the entries between two brackets. -/
theorem listText_append_inj {print : α → String} (hstop : stop ∈ [']', '\x7d']) {as bs : List α}
    (hread : ∀ a ∈ as, ∀ b ∈ bs, ∀ x y, Stops x → Stops y →
      (print a).toList ++ x = (print b).toList ++ y → same a b ∧ x = y)
    (hhead : ∀ c ∈ as ++ bs, ∀ x y, stop :: x ≠ (print c).toList ++ y) {x y : List Char}
    (h : (",".intercalate (as.map print)).toList ++ stop :: x =
      (",".intercalate (bs.map print)).toList ++ stop :: y) :
    List.Forall₂ same as bs ∧ x = y := by
  cases as with
  | nil =>
    cases bs with
    | nil => exact ⟨.nil, (List.cons.inj h).2⟩
    | cons b bs =>
      rw [intercalate_toList, List.append_assoc] at h
      exact absurd h (hhead b (by simp) _ _)
  | cons a as =>
    cases bs with
    | nil =>
      rw [intercalate_toList, List.append_assoc] at h
      exact absurd h.symm (hhead a (by simp) _ _)
    | cons b bs =>
      rw [intercalate_toList, intercalate_toList] at h
      apply tailText_append_inj hstop hread
      show (',' :: (print a).toList ++ tailText _ as) ++ stop :: x =
        (',' :: (print b).toList ++ tailText _ bs) ++ stop :: y
      rw [List.cons_append, List.cons_append, h, List.cons_append, List.cons_append]

end Lists

/-! ## Values -/

/-- The kind of a value. -/
def kind : Json → ℕ
  | null => 0
  | bool _ => 1
  | num _ => 2
  | str _ => 3
  | arr _ => 4
  | obj _ => 5

/-- The kind of a value whose text starts with the character. -/
def kindOf (c : Char) : ℕ :=
  if c = 'n' then 0
  else if c = 't' ∨ c = 'f' then 1
  else if isNumberChar c then 2
  else if c = '"' then 3
  else if c = '[' then 4
  else if c = '\x7b' then 5
  else 6

/-- The text of a finite number: digits, signs, a point and an exponent. -/
def NumberTexts [Host] : Prop :=
  ∀ n : JsNumber, n.isFinite = true → Host.numberToString n ≠ "" ∧
    ∀ c ∈ (Host.numberToString n).toList, isNumberChar c = true

theorem kindOf_of_isNumberChar {c : Char} (hc : isNumberChar c = true) : kindOf c = 2 := by
  unfold kindOf
  rw [if_neg, if_neg, if_pos hc]
  · rintro (rfl | rfl) <;> revert hc <;> decide
  · rintro rfl
    revert hc
    decide

section Values

variable [Host]

theorem kindOf_stringify (hnumbers : NumberTexts) {value : Json}
    (h : value.Everywhere FiniteHere) :
    ∃ c rest, value.stringify.toList = c :: rest ∧ kindOf c = value.kind := by
  cases value with
  | null => exact ⟨'n', ['u', 'l', 'l'], by simp [stringify], rfl⟩
  | bool value =>
    cases value with
    | true => exact ⟨'t', ['r', 'u', 'e'], by simp [stringify], rfl⟩
    | false => exact ⟨'f', ['a', 'l', 's', 'e'], by simp [stringify], rfl⟩
  | num value =>
    obtain ⟨hne, hchars⟩ := hnumbers value h
    rw [stringify]
    cases htext : (Host.numberToString value).toList with
    | nil => exact absurd (String.toList_eq_nil_iff.1 htext) hne
    | cons c rest =>
      have hc := hchars c (by rw [htext]; exact List.mem_cons_self)
      exact ⟨c, rest, rfl, kindOf_of_isNumberChar hc⟩
  | str value =>
    rw [stringify, quote_toList]
    exact ⟨'"', _, rfl, rfl⟩
  | arr items =>
    rw [stringify]
    exact ⟨'[', (",".intercalate (stringifyItems items)).toList ++ [']'], by simp, rfl⟩
  | obj members =>
    rw [stringify]
    exact ⟨'\x7b', (",".intercalate (stringifyMembers members)).toList ++ ['\x7d'], by simp, rfl⟩

omit [Host] in
theorem kind_lt (value : Json) : value.kind < 6 := by
  cases value <;> simp [kind]

/-- A closing bracket starts no value. -/
theorem stop_ne_stringify (hnumbers : NumberTexts) {value : Json}
    (h : value.Everywhere FiniteHere) (x y : List Char) :
    ']' :: x ≠ value.stringify.toList ++ y := by
  obtain ⟨c, rest, htext, hkind⟩ := kindOf_stringify hnumbers h
  rw [htext]
  intro heq
  obtain rfl : ']' = c := (List.cons.inj heq).1
  have hlt := kind_lt value
  rw [← hkind] at hlt
  revert hlt
  decide

/-! The value under a function of its numbers. -/

mutual

def mapNumbers (g : JsNumber → JsNumber) : Json → Json
  | num value => num (g value)
  | arr items => arr (mapNumbersItems g items)
  | obj members => obj (mapNumbersMembers g members)
  | value => value

def mapNumbersItems (g : JsNumber → JsNumber) : List Json → List Json
  | [] => []
  | item :: items => item.mapNumbers g :: mapNumbersItems g items

def mapNumbersMembers (g : JsNumber → JsNumber) : List (String × Json) → List (String × Json)
  | [] => []
  | (key, item) :: members => (key, item.mapNumbers g) :: mapNumbersMembers g members

end

omit [Host] in
theorem mapNumbersItems_eq_map (g : JsNumber → JsNumber) (items : List Json) :
    mapNumbersItems g items = items.map (mapNumbers g) := by
  induction items with
  | nil => simp [mapNumbersItems]
  | cons item items ih => simp [mapNumbersItems, ih]

omit [Host] in
theorem mapNumbersMembers_eq_mapValues (g : JsNumber → JsNumber) (members : JsonObject) :
    mapNumbersMembers g members = mapValues (mapNumbers g) members := by
  unfold mapValues
  induction members with
  | nil => simp [mapNumbersMembers]
  | cons m members ih => simp [mapNumbersMembers, ih]

omit [Host] in
/-- The order of the members does not depend on the numbers. -/
theorem sorted_mapNumbers_iff (g : JsNumber → JsNumber) (value : Json) :
    (value.mapNumbers g).Everywhere SortedHere ↔ value.Everywhere SortedHere := by
  induction value using parts_induction with
  | null => exact Iff.rfl
  | bool value => exact Iff.rfl
  | num value => exact Iff.rfl
  | str value => exact Iff.rfl
  | arr items ih =>
    rw [mapNumbers, mapNumbersItems_eq_map, everywhere_arr, everywhere_arr, List.forall_mem_map]
    exact and_congr Iff.rfl (forall₂_congr ih)
  | obj members ih =>
    rw [mapNumbers, mapNumbersMembers_eq_mapValues, everywhere_obj, everywhere_obj, SortedHere,
      SortedHere, StrictKeys, mapValues, List.pairwise_map, List.forall_mem_map]
    exact and_congr Iff.rfl (forall₂_congr ih)

omit [Host] in
theorem map_eq_of_forall₂ {α β : Type} {f : α → β} {as bs : List α}
    (h : List.Forall₂ (fun a b => f a = f b) as bs) : as.map f = bs.map f := by
  induction h with
  | nil => rfl
  | cons hab _ ih => rw [List.map_cons, List.map_cons, hab, ih]

/-- Two values with one text are equal up to numbers with one text. -/
theorem stringify_append_inj (hnumbers : NumberTexts) {g : JsNumber → JsNumber}
    (hg : ∀ n n' : JsNumber, n.isFinite = true → n'.isFinite = true →
      Host.numberToString n = Host.numberToString n' → g n = g n') {value : Json} :
    ∀ {value' : Json} {x y : List Char}, value.Everywhere FiniteHere →
      value'.Everywhere FiniteHere → Stops x → Stops y →
      value.stringify.toList ++ x = value'.stringify.toList ++ y →
      value.mapNumbers g = value'.mapNumbers g ∧ x = y := by
  -- The first character tells the kind of the value.
  have hkind : ∀ {value value' : Json} {x y : List Char}, value.Everywhere FiniteHere →
      value'.Everywhere FiniteHere → value.stringify.toList ++ x = value'.stringify.toList ++ y →
      value.kind = value'.kind := by
    intro value value' x y hvalue hvalue' h
    obtain ⟨c, rest, htext, hc⟩ := kindOf_stringify hnumbers hvalue
    obtain ⟨c', rest', htext', hc'⟩ := kindOf_stringify hnumbers hvalue'
    rw [htext, htext', List.cons_append, List.cons_append, List.cons.injEq] at h
    rw [← hc, ← hc', h.1]
  induction value using parts_induction with
  | null =>
    intro value' x y hvalue hvalue' _ _ h
    have hsame := hkind hvalue hvalue' h
    cases value' <;> cases hsame
    exact ⟨rfl, List.append_cancel_left h⟩
  | bool b =>
    intro value' x y hvalue hvalue' _ _ h
    have hsame := hkind hvalue hvalue' h
    cases value' <;> cases hsame
    case bool b' =>
      cases b <;> cases b' <;> simp [stringify] at h <;> exact ⟨rfl, h⟩
  | num n =>
    intro value' x y hvalue hvalue' hx hy h
    have hsame := hkind hvalue hvalue' h
    cases value' <;> cases hsame
    case num n' =>
      obtain rfl := number_append_inj (hnumbers n hvalue).2 (hnumbers n' hvalue').2 hx hy h
      have htext := String.toList_inj.1 (List.append_cancel_right h)
      rw [mapNumbers, mapNumbers, hg n n' hvalue hvalue' htext]
      exact ⟨rfl, rfl⟩
  | str s =>
    intro value' x y hvalue hvalue' _ _ h
    have hsame := hkind hvalue hvalue' h
    cases value' <;> cases hsame
    case str s' =>
      obtain ⟨rfl, hrest⟩ := quote_append_inj h
      exact ⟨rfl, hrest⟩
  | arr items ih =>
    intro value' x y hvalue hvalue' _ _ h
    have hsame := hkind hvalue hvalue' h
    cases value' <;> cases hsame
    case arr items' =>
      rw [everywhere_arr] at hvalue hvalue'
      rw [stringify, stringify, stringifyItems_eq_map, stringifyItems_eq_map] at h
      simp only [String.toList_append, List.append_assoc] at h
      have htext := (List.cons.inj h).2
      obtain ⟨hall, hrest⟩ := listText_append_inj (by decide)
        (fun a ha b hb x y hx hy hab =>
          ih a ha (hvalue.2 a ha) (hvalue'.2 b hb) hx hy hab)
        (fun c hc => stop_ne_stringify hnumbers
          ((List.mem_append.1 hc).elim (hvalue.2 c) (hvalue'.2 c))) htext
      rw [mapNumbers, mapNumbers, mapNumbersItems_eq_map, mapNumbersItems_eq_map,
        map_eq_of_forall₂ hall]
      exact ⟨rfl, hrest⟩
  | obj members ih =>
    intro value' x y hvalue hvalue' _ _ h
    have hsame := hkind hvalue hvalue' h
    cases value' <;> cases hsame
    case obj members' =>
      rw [everywhere_obj] at hvalue hvalue'
      rw [stringify, stringify, stringifyMembers_eq_map, stringifyMembers_eq_map] at h
      simp only [String.toList_append, List.append_assoc] at h
      have htext := (List.cons.inj h).2
      have hread : ∀ a ∈ members, ∀ b ∈ members', ∀ x y, Stops x → Stops y →
          (quote a.1 ++ ":" ++ a.2.stringify).toList ++ x =
            (quote b.1 ++ ":" ++ b.2.stringify).toList ++ y →
          (a.1, a.2.mapNumbers g) = (b.1, b.2.mapNumbers g) ∧ x = y := by
        intro a ha b hb x y hx hy hab
        simp only [String.toList_append, List.append_assoc] at hab
        obtain ⟨hkey, hrest⟩ := quote_append_inj hab
        obtain ⟨hsame, htail⟩ := ih a ha (hvalue.2 a ha) (hvalue'.2 b hb) hx hy
          (List.cons.inj hrest).2
        exact ⟨Prod.ext hkey hsame, htail⟩
      obtain ⟨hall, hrest⟩ := listText_append_inj (by decide) hread (by
        intro c _ x y heq
        rw [String.toList_append, String.toList_append, quote_toList] at heq
        exact absurd (List.cons.inj heq).1 (by decide)) htext
      rw [mapNumbers, mapNumbers, mapNumbersMembers_eq_mapValues, mapNumbersMembers_eq_mapValues,
        mapValues, mapValues, map_eq_of_forall₂ hall]
      exact ⟨rfl, hrest⟩

omit [Host] in
theorem stops_nil : Stops [] := by
  intro c hc
  cases hc

/-- The text of a canonical form is its own canonical text exactly when its members are in strict
order. -/
theorem canonicalizeJson_reread_iff (hnumbers : NumberTexts)
    (hzero : ∀ n : JsNumber, n.isZero = true → Host.numberToString n = "0") {value : Json}
    (hfinite : value.Everywhere FiniteHere) (hnormal : value.Everywhere NormalHere) :
    value.reread.canonicalizeJson = .ok value.stringify ↔ value.Everywhere SortedHere := by
  have hreread := finite_reread hfinite
  rw [canonicalizeJson_of_finite hreread, Except.ok.injEq]
  refine ⟨fun h => ?_, fun h => stringify_canonicalForm_reread hzero h hnormal⟩
  -- up to the numbers, the form has the members of what was read back, which are in order
  obtain ⟨hsame, -⟩ := stringify_append_inj hnumbers (g := fun _ => ⟨0⟩) (fun _ _ _ _ _ => rfl)
    (finite_canonicalForm hreread) hfinite stops_nil stops_nil (by rw [h])
  rw [← sorted_mapNumbers_iff fun _ => ⟨0⟩, ← hsame, sorted_mapNumbers_iff]
  exact sorted_canonicalForm_reread hnormal

end Values

end Json

/-! ## The round trip -/

section RoundTrip

variable [Host]

/-- What the code relies on in its host: normalization is idempotent, and numbers are printed as in
ECMAScript. -/
structure HostLaws : Prop where
  nfc_nfc : ∀ s : String, Host.nfc (Host.nfc s) = Host.nfc s
  numberTexts : Json.NumberTexts
  zero : ∀ n : JsNumber, n.isZero = true → Host.numberToString n = "0"

/-- `JSON.parse` reads the text of the value as in ECMAScript. -/
def Rereads (value : Json) : Prop := Host.jsonParse value.stringify = some value.reread

/-- On a node that stores the identity of the update, both readers find the digest. -/
def ReadsBack (update : PreparedIdentityUpdate) (vdxfKey digest : String) : Prop :=
  ∀ (identityAddress : String) (content : VerusIdentityResult),
    content.identity = update.identity →
    (verifyIdentityContentReadback identityAddress vdxfKey digest).run.Runs
        [⟨.getIdentityContent identityAddress vdxfKey, .ok content⟩] (.ok (.verified digest)) ∧
    (findReadbackEvidenceBeforeResubmission identityAddress vdxfKey digest).run.Runs
        [⟨.getIdentityContent identityAddress vdxfKey, .ok content⟩]
        (.ok (some (content.transactionId, content.blockHeight)))

theorem runs_verifyIdentityContentReadback {identityAddress vdxfKey digest : String}
    {content : VerusIdentityResult} :
    (verifyIdentityContentReadback identityAddress vdxfKey digest).run.Runs
        [⟨.getIdentityContent identityAddress vdxfKey, .ok content⟩] (.ok (.verified digest)) ↔
      digest ∈ contentDigests vdxfKey content := by
  constructor
  · rintro ⟨answer, rest, htrace, hrun⟩
    obtain ⟨hfirst, rfl⟩ := List.cons.inj htrace
    obtain rfl := eq_of_heq (Sigma.mk.inj hfirst).2
    by_contra hmem
    change Lib.Program.Runs (ExceptT.run (if _ then _ else _)) _ _ at hrun
    rw [if_neg hmem] at hrun
    cases Except.ok.inj hrun.2
  · intro hmem
    refine ⟨.ok content, [], rfl, ?_⟩
    change Lib.Program.Runs (ExceptT.run (if _ then _ else _)) _ _
    rw [if_pos hmem]
    exact ⟨rfl, rfl⟩

theorem runs_findReadbackEvidence {identityAddress vdxfKey digest : String}
    {content : VerusIdentityResult} (hmem : digest ∈ contentDigests vdxfKey content) :
    (findReadbackEvidenceBeforeResubmission identityAddress vdxfKey digest).run.Runs
        [⟨.getIdentityContent identityAddress vdxfKey, .ok content⟩]
        (.ok (some (content.transactionId, content.blockHeight))) := by
  refine ⟨.ok content, [], rfl, ?_⟩
  change Lib.Program.Runs (ExceptT.run (if _ then _ else _)) _ _
  rw [if_pos hmem]
  exact ⟨rfl, rfl⟩

/-- Both readers find the digest when it is among those of the content. -/
theorem readsBack_iff {update : PreparedIdentityUpdate} {vdxfKey digest : String} :
    ReadsBack update vdxfKey digest ↔ ∀ content : VerusIdentityResult,
      content.identity = update.identity → digest ∈ contentDigests vdxfKey content := by
  constructor
  · intro h content hcontent
    exact runs_verifyIdentityContentReadback.1 (h "" content hcontent).1
  · intro h identityAddress content hcontent
    have hmem := h content hcontent
    exact ⟨runs_verifyIdentityContentReadback.2 hmem, runs_findReadbackEvidence hmem⟩

omit [Host] in
theorem toHex_ne_empty {bytes : List UInt8} (h : bytes ≠ []) : (toHex bytes).isEmpty = false := by
  cases bytes with
  | nil => exact absurd rfl h
  | cons b bytes => simp [toHex]

/-- The digest of the entry that holds a text. -/
theorem digestCanonicalHexEntry_toHex {text : String} (hhead : text.toList.head? = some '\x7b')
    {value : Json} (hparse : Host.jsonParse text = some value) :
    digestCanonicalHexEntry (.str (toHex (encodeUtf8 text))) =
      if value.canonicalizeJson = .ok text then some (sha256 text) else none := by
  have hne : encodeUtf8 text ≠ [] := by
    rw [encodeUtf8_eq_flatMap]
    cases hchars : text.toList with
    | nil =>
      rw [hchars] at hhead
      cases hhead
    | cons c cs =>
      rw [List.flatMap_cons]
      intro hnil
      have hempty := (List.append_eq_nil_iff.1 hnil).1
      have hlength := String.length_utf8EncodeChar c
      rw [hempty] at hlength
      have hpos := Char.utf8Size_pos c
      rw [← hlength] at hpos
      exact absurd hpos (lt_irrefl 0)
  have hdecode : decodeText (encodeUtf8 text) = some text := by
    apply decodeText_encodeUtf8
    intro c hc
    rw [hhead] at hc
    rw [← Option.some.inj hc]
    decide
  rw [digestCanonicalHexEntry, fromHex_toHex]
  simp only [toHex_ne_empty hne, hdecode, hparse, Bool.false_eq_true, if_false, Option.bind_eq_bind,
    Option.bind_some]
  cases hcanonical : value.canonicalizeJson with
  | error error => simp
  | ok canonical =>
    simp only [Except.ok.injEq]
    rfl

open scoped Classical in
/-- The content under the key is the one entry that was written; it counts when its canonical form is
in strict order. -/
theorem contentDigests_update (laws : HostLaws) {value : JsonObject}
    {policy : CanonicalPayloadPolicy} {payload : CanonicalPayload}
    {identity : VerusIdentityDefinition} {vdxfKey : String} {update : PreparedIdentityUpdate}
    (hpayload : prepareCanonicalPayload value policy = .ok payload)
    (hupdate : prepareIdentityContentUpdate identity vdxfKey payload = .ok update)
    (hparse : Rereads (Json.obj value).canonicalForm) {content : VerusIdentityResult}
    (hcontent : content.identity = update.identity) :
    contentDigests vdxfKey content =
      if (Json.obj value).canonicalForm.Everywhere Json.SortedHere then [payload.digest] else [] := by
  obtain ⟨text, htext, hbytes, hdigest⟩ := prepareCanonicalPayload_spec hpayload
  have hfinite := Json.finite_of_canonicalizeJson htext
  have hhead := canonicalizeJson_obj_head htext
  obtain rfl : (Json.obj value).canonicalForm.stringify = text := by
    rw [Json.canonicalizeJson_of_finite hfinite] at htext
    exact Except.ok.inj htext
  have hfixed := Json.canonicalizeJson_reread_iff laws.numberTexts laws.zero
    (Json.finite_canonicalForm hfinite) (Json.normal_canonicalForm laws.nfc_nfc (.obj value))
  unfold prepareIdentityContentUpdate at hupdate
  split_ifs at hupdate
  obtain rfl := Except.ok.inj hupdate
  rw [contentDigests, hcontent, lookup_setEntry_self, Option.getD_some, hbytes, hdigest,
    List.filterMap_cons, digestCanonicalHexEntry_toHex hhead hparse, ← hfixed]
  by_cases hcanonical : (Json.obj value).canonicalForm.reread.canonicalizeJson =
      .ok (Json.obj value).canonicalForm.stringify <;> simp [hcanonical]

/-- A payload that was written is read back exactly when its canonical form is in strict order. -/
theorem readsBack_iff_sorted (laws : HostLaws) {value : JsonObject}
    {policy : CanonicalPayloadPolicy} {payload : CanonicalPayload}
    {identity : VerusIdentityDefinition} {vdxfKey : String} {update : PreparedIdentityUpdate}
    (hpayload : prepareCanonicalPayload value policy = .ok payload)
    (hupdate : prepareIdentityContentUpdate identity vdxfKey payload = .ok update)
    (hparse : Rereads (Json.obj value).canonicalForm) :
    ReadsBack update vdxfKey payload.digest ↔
      (Json.obj value).canonicalForm.Everywhere Json.SortedHere := by
  have hdigests : ∀ content : VerusIdentityResult, content.identity = update.identity →
      (payload.digest ∈ contentDigests vdxfKey content ↔
        (Json.obj value).canonicalForm.Everywhere Json.SortedHere) := by
    intro content hcontent
    rw [contentDigests_update laws hpayload hupdate hparse hcontent]
    split_ifs with hsorted <;> simp [hsorted]
  rw [readsBack_iff]
  constructor
  · intro h
    exact (hdigests { identity := update.identity, status := "", canSignFor := true
                      blockHeight := 0, transactionId := "" } rfl).1 (h _ rfl)
  · intro hsorted content hcontent
    exact (hdigests content hcontent).2 hsorted

/-- A payload that was written is read back exactly when normalization keeps the strict order of the
keys of every object in it. -/
theorem readback_round_trip_iff (laws : HostLaws) {value : JsonObject}
    {policy : CanonicalPayloadPolicy} {payload : CanonicalPayload}
    {identity : VerusIdentityDefinition} {vdxfKey : String} {update : PreparedIdentityUpdate}
    (hpayload : prepareCanonicalPayload value policy = .ok payload)
    (hupdate : prepareIdentityContentUpdate identity vdxfKey payload = .ok update)
    (hparse : Rereads (Json.obj value).canonicalForm) :
    ReadsBack update vdxfKey payload.digest ↔ (Json.obj value).Everywhere Json.OrderKeptHere := by
  rw [readsBack_iff_sorted laws hpayload hupdate hparse, Json.sorted_canonicalForm_iff]

end RoundTrip

namespace RoundTripSample

/-- Two members out of order. -/
def plain : JsonObject := [("b", .str "x"), ("a", .arr [.num IdentitySample.zero])]

def plainText : String := "\x7b\"a\":[0],\"b\":\"x\"\x7d"

/-- A key with a combining ring: normalized, it comes after the other one. -/
def ring : JsonObject := [("A\u030a", .null), ("B", .null)]

def ringText : String := "\x7b\"\u00c5\":null,\"B\":null\x7d"

/-- The host functions on the sample texts. -/
scoped instance host : Host where
  nfc s := if s = "A\u030a" then "\u00c5" else s
  numberToString _ := "0"
  jsonParse text :=
    if text = plainText then
      some (.obj [("a", .arr [.num IdentitySample.zero]), ("b", .str "x")])
    else if text = ringText then some (.obj [("\u00c5", .null), ("B", .null)])
    else none

theorem host_laws : HostLaws := by
  refine ⟨fun s => ?_, fun n _ => ?_, fun _ _ => rfl⟩
  · show (if (if s = "A\u030a" then "\u00c5" else s) = "A\u030a" then _ else _) = _
    by_cases h : s = "A\u030a"
    · rw [if_pos h, if_neg (by decide)]
    · rw [if_neg h, if_neg h]
  · show "0" ≠ "" ∧ ∀ c ∈ "0".toList, Json.isNumberChar c = true
    exact ⟨by decide, List.all_eq_true.1 (by decide)⟩

def policy (fields : List String) : CanonicalPayloadPolicy :=
  { policyReference := "cbc.anchor.manifest.v1"
    allowedTopLevelFields := fields
    requiredTopLevelFields := fields
    maximumBytes := 2048 }

def payload (value : JsonObject) (text : String) : CanonicalPayload :=
  { value, bytes := encodeUtf8 text, digest := sha256 text
    policyReference := "cbc.anchor.manifest.v1" }

theorem plain_canonical : (Json.obj plain).canonicalizeJson = .ok plainText := by
  rfl

theorem ring_canonical : (Json.obj ring).canonicalizeJson = .ok ringText := by
  rfl

theorem prepare_plain : prepareCanonicalPayload plain (policy ["a", "b"]) =
    .ok (payload plain plainText) :=
  prepareCanonicalPayload_ok (by decide) (by decide) rfl plain_canonical (by decide)

theorem prepare_ring : prepareCanonicalPayload ring (policy ["A\u030a", "B"]) =
    .ok (payload ring ringText) :=
  prepareCanonicalPayload_ok (by decide) (by decide) rfl ring_canonical (by decide)

theorem rereads_plain : Rereads (Json.obj plain).canonicalForm := by
  unfold Rereads
  rfl

theorem rereads_ring : Rereads (Json.obj ring).canonicalForm := by
  unfold Rereads
  rfl

/-- The two members are written in order and read back. -/
theorem readback_round_trip_iff_plain : ∃ update,
    prepareIdentityContentUpdate IdentitySample.parsed.identity IdentitySample.vdxfKey
      (payload plain plainText) = .ok update ∧
    ReadsBack update IdentitySample.vdxfKey (payload plain plainText).digest := by
  refine ⟨_, rfl, (readback_round_trip_iff host_laws prepare_plain rfl rereads_plain).2 ?_⟩
  refine Json.everywhere_obj.2 ⟨?_, ?_⟩
  · show List.Pairwise _ _
    decide
  · simp [plain, Json.Everywhere, Json.EveryItem, Json.OrderKeptHere]

/-- The key with the ring is written first and belongs last: its payload is not found. -/
theorem ring_not_read_back : ∃ update,
    prepareCanonicalPayload ring (policy ["A\u030a", "B"]) = .ok (payload ring ringText) ∧
    prepareIdentityContentUpdate IdentitySample.parsed.identity IdentitySample.vdxfKey
      (payload ring ringText) = .ok update ∧
    HostLaws ∧ Rereads (Json.obj ring).canonicalForm ∧
    ¬ ReadsBack update IdentitySample.vdxfKey (payload ring ringText).digest := by
  refine ⟨_, prepare_ring, rfl, host_laws, rereads_ring, fun h => ?_⟩
  have hsorted := (readsBack_iff_sorted host_laws prepare_ring rfl rereads_ring).1 h
  rw [Json.sorted_canonicalForm_iff, Json.everywhere_obj] at hsorted
  have hkeys : List.Pairwise (fun a b => Json.OrderKept a.1 b.1) ring := hsorted.1
  revert hkeys
  decide

end RoundTripSample

end ChecksAndBalances
