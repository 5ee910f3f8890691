import ChecksAndBalances.Verus.RoundTrip

/-!
# Parsing

`JSON.parse` on texts whose strings have no lone surrogate, up to the conversion of a numeral, which
`readNumber` gives.  It reads what `stringify` prints: `parse_stringify`.
-/

namespace ChecksAndBalances

namespace Json

/-! ## The grammar -/

/-- White space between tokens. -/
def isSpace (c : Char) : Bool := c.toNat ∈ [0x20, 0x9, 0xa, 0xd]

def skipSpace (text : List Char) : List Char := text.dropWhile isSpace

/-- The characters of a numeral. -/
def isNumeralChar (c : Char) : Bool := isNumberChar c || c = 'E'

/-- The code unit of an escape with four hexadecimal digits. -/
def hexUnit (a b c d : Char) : Option ℕ := do
  return (((← hexValue a) * 16 + (← hexValue b)) * 16 + (← hexValue c)) * 16 + (← hexValue d)

/-- The second half of a surrogate pair. -/
def parseLowSurrogate (high : ℕ) : List Char → Option (Char × List Char)
  | '\\' :: 'u' :: a :: b :: c :: d :: rest => do
    let low ← hexUnit a b c d
    if high < 0xdc00 ∧ 0xdc00 ≤ low ∧ low ≤ 0xdfff then
      return (Char.ofNat (0x10000 + (high - 0xd800) * 0x400 + (low - 0xdc00)), rest)
    else none
  | _ => none

/-- The character that a letter after a backslash stands for. -/
def unescape (c : Char) : Option Char :=
  if c ∈ ['"', '\\', '/'] then some c
  else if c = 'b' then some (Char.ofNat 8)
  else if c = 't' then some (Char.ofNat 9)
  else if c = 'n' then some (Char.ofNat 10)
  else if c = 'f' then some (Char.ofNat 12)
  else if c = 'r' then some (Char.ofNat 13)
  else none

/-- One character of a string literal. -/
def parseChar : List Char → Option (Char × List Char)
  | '\\' :: 'u' :: a :: b :: c :: d :: rest => do
    let unit ← hexUnit a b c d
    if unit < 0xd800 ∨ 0xdfff < unit then return (Char.ofNat unit, rest)
    else parseLowSurrogate unit rest
  | '\\' :: c :: rest => do return (← unescape c, rest)
  | c :: rest => if c.toNat < 32 ∨ c = '\\' then none else some (c, rest)
  | [] => none

/-- The rest of a string literal after its opening quote. -/
def parseString : ℕ → List Char → Option (List Char × List Char)
  | 0, _ => none
  | _ + 1, '"' :: rest => some ([], rest)
  | fuel + 1, text => do
    let (c, rest) ← parseChar text
    let (s, rest) ← parseString fuel rest
    return (c :: s, rest)

section Grammar

variable (readNumber : String → Option JsNumber)

/-- A numeral. -/
def parseNumber (text : List Char) : Option (Json × List Char) := do
  let value ← readNumber (String.ofList (text.takeWhile isNumeralChar))
  return (num value, text.dropWhile isNumeralChar)

/-- The object with the members read, the last of several with one key. -/
def ofMembers (members : JsonObject) : Json := obj (ownOrder (members.foldl setMember []))

mutual

/-- A value; the fuel bounds the characters read. -/
def parseValue : ℕ → List Char → Option (Json × List Char)
  | 0, _ => none
  | fuel + 1, text =>
    match skipSpace text with
    | 'n' :: 'u' :: 'l' :: 'l' :: rest => some (null, rest)
    | 't' :: 'r' :: 'u' :: 'e' :: rest => some (bool true, rest)
    | 'f' :: 'a' :: 'l' :: 's' :: 'e' :: rest => some (bool false, rest)
    | '"' :: rest => do
      let (s, rest) ← parseString fuel rest
      return (str (String.ofList s), rest)
    | '[' :: rest =>
      match skipSpace rest with
      | ']' :: rest => some (arr [], rest)
      | text => do
        let (items, rest) ← parseItems fuel text
        return (arr items, rest)
    | '\x7b' :: rest =>
      match skipSpace rest with
      | '\x7d' :: rest => some (ofMembers [], rest)
      | text => do
        let (members, rest) ← parseMembers fuel text
        return (ofMembers members, rest)
    | text => parseNumber readNumber text

/-- The items of an array, at least one, and its closing bracket. -/
def parseItems : ℕ → List Char → Option (List Json × List Char)
  | 0, _ => none
  | fuel + 1, text => do
    let (item, rest) ← parseValue fuel text
    match skipSpace rest with
    | ',' :: rest => do
      let (items, rest) ← parseItems fuel rest
      return (item :: items, rest)
    | ']' :: rest => return ([item], rest)
    | _ => none

/-- The members of an object, at least one, and its closing brace. -/
def parseMembers : ℕ → List Char → Option (JsonObject × List Char)
  | 0, _ => none
  | fuel + 1, text =>
    match skipSpace text with
    | '"' :: rest => do
      let (key, rest) ← parseString fuel rest
      match skipSpace rest with
      | ':' :: rest => do
        let (item, rest) ← parseValue fuel rest
        match skipSpace rest with
        | ',' :: rest => do
          let (members, rest) ← parseMembers fuel rest
          return ((String.ofList key, item) :: members, rest)
        | '\x7d' :: rest => return ([(String.ofList key, item)], rest)
        | _ => none
      | _ => none
    | _ => none

end

/-- `JSON.parse`. -/
def parse (text : String) : Option Json := do
  let (value, rest) ← parseValue readNumber (text.length + 1) text.toList
  if skipSpace rest = [] then return value else none

end Grammar

/-! ## Reading what was printed -/

theorem parseChar_escapeChar (c : Char) (rest : List Char) :
    parseChar (escapeChar c ++ rest) = some (c, rest) := by
  have hof : Char.ofNat c.toNat = c := Char.ofNat_toNat c
  refine escapeChar_cases (P := fun cs => parseChar (cs ++ rest) = some (c, rest)) c ?_ ?_ ?_ ?_ ?_
  · rintro rfl
    rfl
  · rintro rfl
    rfl
  · intro e he hc
    rw [← hof, hc]
    simp only [List.mem_cons, List.not_mem_nil, or_false] at he
    rcases he with rfl | rfl | rfl | rfl | rfl <;> rfl
  · intro hlow
    have hunit : hexUnit '0' '0' (hexDigit (c.toNat / 16)) (hexDigit (c.toNat % 16)) =
        some c.toNat := by
      rw [hexUnit, hexValue_hexDigit _ (by omega), hexValue_hexDigit _ (by omega)]
      show some (((0 * 16 + 0) * 16 + c.toNat / 16) * 16 + c.toNat % 16) = _
      congr 1
      omega
    show (hexUnit _ _ _ _ >>= fun unit => if unit < 0xd800 ∨ 0xdfff < unit then
      some (Char.ofNat unit, rest) else parseLowSurrogate unit rest) = _
    rw [hunit, Option.bind_eq_bind, Option.bind_some, if_pos (Or.inl (by omega)), hof]
  · intro _ hbackslash hlow
    rw [List.cons_append, List.nil_append, parseChar, if_neg (not_or.2 ⟨hlow, hbackslash⟩)]
    all_goals
      intros
      contradiction
theorem parseString_escape (s : List Char) (rest : List Char) {fuel : ℕ}
    (hfuel : s.length < fuel) :
    parseString fuel (s.flatMap escapeChar ++ '"' :: rest) = some (s, rest) := by
  induction s generalizing fuel with
  | nil =>
    obtain ⟨fuel, rfl⟩ := Nat.exists_eq_succ_of_ne_zero (Nat.ne_of_gt hfuel)
    rfl
  | cons c s ih =>
    obtain ⟨fuel, rfl⟩ := Nat.exists_eq_succ_of_ne_zero (Nat.ne_zero_of_lt hfuel)
    have hrest := ih (Nat.lt_of_succ_lt_succ hfuel)
    rw [List.flatMap_cons, List.append_assoc]
    unfold parseString
    split
    · next hzero => cases hzero
    · next heq => exact absurd heq.symm (escapeChar_append_ne c _ _)
    · next hsucc _ =>
      obtain rfl := Nat.succ.inj hsucc
      rw [parseChar_escapeChar]
      simp [hrest]

theorem skipSpace_cons {c : Char} (hc : isSpace c = false) (rest : List Char) :
    skipSpace (c :: rest) = c :: rest := by
  rw [skipSpace, List.dropWhile_cons, hc]
  simp

theorem length_le_escape (s : List Char) : s.length ≤ (s.flatMap escapeChar).length := by
  induction s with
  | nil => simp
  | cons c s ih =>
    have hone : 1 ≤ (escapeChar c).length :=
      escapeChar_cases (P := fun cs => 1 ≤ cs.length) c (fun _ => by simp) (fun _ => by simp)
        (fun _ _ _ => by simp) (fun _ => by simp) (fun _ _ _ => le_rfl)
    rw [List.flatMap_cons, List.length_append, List.length_cons]
    omega

theorem parseString_quote (s : String) (rest : List Char) (fuel : ℕ)
    (hfuel : (quote s).toList.length ≤ fuel) :
    ∃ text, (quote s).toList ++ rest = '"' :: text ∧
      parseString fuel text = some (s.toList, rest) := by
  have hlength := length_le_escape s.toList
  rw [quote_toList, List.length_cons, List.length_append, List.length_singleton] at hfuel
  refine ⟨s.toList.flatMap escapeChar ++ '"' :: rest, ?_, parseString_escape _ _ (by omega)⟩
  rw [quote_toList, List.cons_append, List.append_assoc, List.singleton_append]

section Values

variable [Host] {readNumber : String → Option JsNumber}

/-- The one number that the text of a number is read as: there is no negative zero. -/
def oneZero (n : JsNumber) : JsNumber := if n.isZero then ⟨0⟩ else n

/-- The conversion of numerals takes back the printing of finite numbers. -/
def ReadsNumbers (readNumber : String → Option JsNumber) : Prop :=
  ∀ n : JsNumber, n.isFinite = true → readNumber (Host.numberToString n) = some (oneZero n)

/-- A value is read from the front of a text. -/
def ReadsFront (readNumber : String → Option JsNumber) (value : Json) : Prop :=
  ∀ (fuel : ℕ) (x : List Char), value.stringify.toList.length < fuel → Stops x →
    parseValue readNumber fuel (value.stringify.toList ++ x) = some (value.reread, x)

omit [Host] in
/-- A numeral ends where the text stops it. -/
theorem span_numeral {text x : List Char} (htext : ∀ c ∈ text, isNumberChar c = true)
    (hx : Stops x) : (text ++ x).takeWhile isNumeralChar = text ∧
      (text ++ x).dropWhile isNumeralChar = x := by
  have hnumeral : ∀ c ∈ text, isNumeralChar c = true := by
    intro c hc
    rw [isNumeralChar, htext c hc, Bool.true_or]
  have hstop : ∀ c, x.head? = some c → isNumeralChar c = false := by
    intro c hc
    have hmem := hx c hc
    simp only [List.mem_cons, List.not_mem_nil, or_false] at hmem
    rcases hmem with rfl | rfl | rfl <;> decide
  rw [List.takeWhile_append_of_pos hnumeral, List.dropWhile_append_of_pos hnumeral]
  cases x with
  | nil => simp
  | cons c x => simp [hstop c rfl]

omit [Host] in
/-- No value starts with white space. -/
theorem isSpace_of_kindOf {c : Char} (h : kindOf c < 6) : isSpace c = false := by
  by_contra hspace
  simp only [isSpace, List.mem_cons, List.not_mem_nil, or_false, Bool.not_eq_false,
    decide_eq_true_eq] at hspace
  have hof := Char.ofNat_toNat c
  rcases hspace with hc | hc | hc | hc
  all_goals
    rw [← hof, hc] at h
    exact absurd h (by decide)

/-- A number is read from the front of a text when its numeral is read. -/
theorem readsFront_num {n : JsNumber} (hne : Host.numberToString n ≠ "")
    (hchars : ∀ c ∈ (Host.numberToString n).toList, isNumberChar c = true)
    (hread : readNumber (Host.numberToString n) = some (oneZero n)) :
    ReadsFront readNumber (num n) := by
  intro fuel x hfuel hx
  obtain ⟨fuel, rfl⟩ := Nat.exists_eq_succ_of_ne_zero (Nat.ne_zero_of_lt hfuel)
  obtain ⟨htake, hdrop⟩ := span_numeral hchars hx
  have hnumber : parseNumber readNumber ((num n).stringify.toList ++ x) =
      some ((num n).reread, x) := by
    rw [stringify, parseNumber, htake, hdrop, String.ofList_toList, hread]
    rfl
  rw [stringify] at hnumber ⊢
  cases htext : (Host.numberToString n).toList with
  | nil => exact absurd (String.toList_eq_nil_iff.1 htext) hne
  | cons c text =>
    have hkind := kindOf_of_isNumberChar (hchars c (by rw [htext]; exact List.mem_cons_self))
    rw [htext, List.cons_append] at hnumber
    rw [List.cons_append]
    unfold parseValue
    rw [skipSpace_cons (isSpace_of_kindOf (by rw [hkind]; decide))]
    -- The first character of a numeral starts no other value.
    split
    all_goals first
      | exact hnumber
      | next heq =>
        rw [(List.cons.inj heq).1] at hkind
        exact absurd hkind (by decide)

theorem readsFront_null : ReadsFront readNumber null := by
  intro fuel x hfuel _
  obtain ⟨fuel, rfl⟩ := Nat.exists_eq_succ_of_ne_zero (Nat.ne_zero_of_lt hfuel)
  simp [stringify, parseValue, skipSpace_cons (show isSpace 'n' = false by decide), reread]

theorem readsFront_bool (b : Bool) : ReadsFront readNumber (bool b) := by
  intro fuel x hfuel _
  obtain ⟨fuel, rfl⟩ := Nat.exists_eq_succ_of_ne_zero (Nat.ne_zero_of_lt hfuel)
  cases b <;> simp [stringify, parseValue, skipSpace_cons (show isSpace 'f' = false by decide),
    skipSpace_cons (show isSpace 't' = false by decide), reread]

theorem readsFront_str (s : String) : ReadsFront readNumber (str s) := by
  intro fuel x hfuel _
  obtain ⟨fuel, rfl⟩ := Nat.exists_eq_succ_of_ne_zero (Nat.ne_zero_of_lt hfuel)
  rw [stringify] at hfuel ⊢
  obtain ⟨text, htext, hparse⟩ := parseString_quote s x _ (Nat.le_of_lt_succ hfuel)
  rw [htext]
  unfold parseValue
  rw [skipSpace_cons (by decide)]
  simp only [hparse]
  rw [Option.bind_eq_bind, Option.bind_some, String.ofList_toList]
  rfl

/-- Items are read one after another up to the closing bracket. -/
theorem parseItems_print (first : Json) {rest : List Json} (x : List Char) (fuel : ℕ)
    (hread : ∀ item ∈ first :: rest, ReadsFront readNumber item)
    (hfuel : (first.stringify.toList ++ tailText (fun item => (stringify item).toList) rest
      ++ [']']).length < fuel) :
    parseItems readNumber fuel (first.stringify.toList ++
      tailText (fun item => (stringify item).toList) rest ++ ']' :: x) =
        some ((first :: rest).map reread, x) := by
  induction rest generalizing first fuel with
  | nil =>
    obtain ⟨fuel, rfl⟩ := Nat.exists_eq_succ_of_ne_zero (Nat.ne_zero_of_lt hfuel)
    simp only [tailText, List.flatMap_nil, List.append_nil, List.length_append,
      List.length_singleton] at hfuel ⊢
    have hfirst := hread first List.mem_cons_self fuel (']' :: x) (by omega) (by
      rintro c ⟨⟩
      decide)
    rw [parseItems, hfirst]
    rfl
  | cons second rest ih =>
    obtain ⟨fuel, rfl⟩ := Nat.exists_eq_succ_of_ne_zero (Nat.ne_zero_of_lt hfuel)
    simp only [tailText, List.flatMap_cons, List.append_assoc, List.cons_append,
      List.length_append, List.length_cons, List.length_nil] at hfuel ih ⊢
    have hfirst := hread first List.mem_cons_self fuel (',' :: (second.stringify.toList ++
      (tailText (fun item => (stringify item).toList) rest ++ ']' :: x))) (by omega) (by
        rintro c ⟨⟩
        decide)
    have hrest := ih second fuel
      (fun item hitem => hread item (List.mem_cons_of_mem _ hitem)) (by omega)
    simp only [tailText] at hfirst
    rw [parseItems, hfirst]
    simp only [Option.bind_eq_bind, Option.bind_some, skipSpace_cons (show isSpace ',' = false by
      decide), hrest]
    rfl

/-- The text of a member. -/
def memberText (m : String × Json) : String := quote m.1 ++ ":" ++ m.2.stringify

/-- Members are read one after another up to the closing brace. -/
theorem parseMembers_print (first : String × Json) {rest : JsonObject} (x : List Char) (fuel : ℕ)
    (hread : ∀ m ∈ first :: rest, ReadsFront readNumber m.2)
    (hfuel : ((memberText first).toList ++ tailText (fun m => (memberText m).toList) rest
      ++ ['\x7d']).length < fuel) :
    parseMembers readNumber fuel ((memberText first).toList ++
      tailText (fun m => (memberText m).toList) rest ++ '\x7d' :: x) =
        some (mapValues reread (first :: rest), x) := by
  have hmember : ∀ (m : String × Json) (y : List Char) (fuel : ℕ), ReadsFront readNumber m.2 →
      Stops y → (memberText m).toList.length < fuel + 1 →
      ∃ text, (memberText m).toList ++ y = '"' :: text ∧ ∃ value,
        parseString fuel text = some (m.1.toList, ':' :: value) ∧
        parseValue readNumber fuel value = some (m.2.reread, y) := by
    intro m y fuel hm hy hlt
    simp only [memberText, String.toList_append, List.append_assoc, List.length_append] at hlt ⊢
    obtain ⟨text, htext, hparse⟩ := parseString_quote m.1 (":".toList ++ (m.2.stringify.toList ++ y))
      fuel (by omega)
    have hcolon : ":".toList.length = 1 := rfl
    exact ⟨text, htext, m.2.stringify.toList ++ y, hparse, hm fuel y (by omega) hy⟩
  induction rest generalizing first fuel with
  | nil =>
    obtain ⟨fuel, rfl⟩ := Nat.exists_eq_succ_of_ne_zero (Nat.ne_zero_of_lt hfuel)
    simp only [tailText, List.flatMap_nil, List.append_nil, List.length_append,
      List.length_singleton] at hfuel ⊢
    obtain ⟨text, htext, value, hkey, hvalue⟩ := hmember first ('\x7d' :: x) fuel
      (hread first List.mem_cons_self) (by
        rintro c ⟨⟩
        decide) (by omega)
    rw [htext, parseMembers, skipSpace_cons (by decide)]
    simp only [hkey, Option.bind_eq_bind, Option.bind_some, skipSpace_cons (show isSpace ':' = false
      by decide), hvalue, skipSpace_cons (show isSpace '\x7d' = false by decide),
      String.ofList_toList]
    rfl
  | cons second rest ih =>
    obtain ⟨fuel, rfl⟩ := Nat.exists_eq_succ_of_ne_zero (Nat.ne_zero_of_lt hfuel)
    simp only [tailText, List.flatMap_cons, List.append_assoc, List.cons_append,
      List.length_append, List.length_cons, List.length_nil] at hfuel ih ⊢
    obtain ⟨text, htext, value, hkey, hvalue⟩ := hmember first (',' :: ((memberText second).toList ++
      (tailText (fun m => (memberText m).toList) rest ++ '\x7d' :: x))) fuel
      (hread first List.mem_cons_self) (by
        rintro c ⟨⟩
        decide) (by omega)
    have hrest := ih second fuel
      (fun m hm => hread m (List.mem_cons_of_mem _ hm)) (by omega)
    simp only [tailText] at htext hvalue
    rw [htext, parseMembers, skipSpace_cons (by decide)]
    simp only [hkey, Option.bind_eq_bind, Option.bind_some, skipSpace_cons (show isSpace ':' = false
      by decide), hvalue, skipSpace_cons (show isSpace ',' = false by decide), hrest,
      String.ofList_toList]
    rfl

/-- An object is read from the front of a text when its members are. -/
theorem readsFront_obj {members : JsonObject}
    (hread : ∀ m ∈ members, ReadsFront readNumber m.2) :
    ReadsFront readNumber (obj members) := by
  intro fuel x hfuel _
  obtain ⟨fuel, rfl⟩ := Nat.exists_eq_succ_of_ne_zero (Nat.ne_zero_of_lt hfuel)
  rw [stringify, stringifyMembers_eq_map] at hfuel ⊢
  rw [show (fun m : String × Json => quote m.1 ++ ":" ++ m.2.stringify) = memberText from rfl]
    at hfuel ⊢
  simp only [String.toList_append, List.append_assoc, List.length_append] at hfuel ⊢
  cases members with
  | nil => rfl
  | cons first rest =>
    rw [intercalate_toList] at hfuel ⊢
    rw [List.append_assoc]
    have hparse := parseMembers_print first x fuel hread (by
        simp only [List.length_append, show "\x7b".toList.length = 1 from rfl,
          show "\x7d".toList.length = 1 from rfl, List.length_singleton] at hfuel ⊢
        omega)
    have htext : (memberText first).toList = '"' :: (first.1.toList.flatMap escapeChar ++ ['"'] ++
        ":".toList ++ first.2.stringify.toList) := by
      simp [memberText, quote_toList]
    rw [List.append_assoc, htext, List.cons_append] at hparse
    rw [htext, List.cons_append]
    show parseValue readNumber (fuel + 1) ('\x7b' :: '"' :: _) = _
    unfold parseValue
    rw [skipSpace_cons (show isSpace '\x7b' = false by decide)]
    simp only [skipSpace_cons (show isSpace '"' = false by decide)]
    split
    · next heq => exact absurd (List.cons.inj heq).1 (by decide)
    · rw [show "\x7d".toList ++ x = '\x7d' :: x from rfl, hparse, reread,
        rereadMembers_eq_mapValues]
      rfl

/-- What `JSON.parse` makes of the text of a value. -/
theorem readsFront (hnumbers : NumberTexts) (hread : ReadsNumbers readNumber) {value : Json}
    (h : value.Everywhere FiniteHere) : ReadsFront readNumber value := by
  induction value using parts_induction with
  | null => exact readsFront_null
  | bool b => exact readsFront_bool b
  | num n =>
    obtain ⟨hne, hchars⟩ := hnumbers n h
    exact readsFront_num hne hchars (hread n h)
  | str s => exact readsFront_str s
  | arr items ih =>
    intro fuel x hfuel _
    obtain ⟨fuel, rfl⟩ := Nat.exists_eq_succ_of_ne_zero (Nat.ne_zero_of_lt hfuel)
    have hitems := (everywhere_arr.1 h).2
    rw [stringify, stringifyItems_eq_map] at hfuel ⊢
    simp only [String.toList_append, List.append_assoc, List.length_append] at hfuel ⊢
    cases items with
    | nil => rfl
    | cons first rest =>
      rw [intercalate_toList] at hfuel ⊢
      rw [List.append_assoc]
      have hparse := parseItems_print first x fuel
        (fun item hitem => ih item hitem (hitems item hitem)) (by
          simp only [List.length_append, show "[".toList.length = 1 from rfl,
            show "]".toList.length = 1 from rfl, List.length_singleton] at hfuel ⊢
          omega)
      obtain ⟨c, text, htext, hkind⟩ := kindOf_stringify hnumbers (hitems first List.mem_cons_self)
      have hlt := kind_lt first
      rw [List.append_assoc, htext, List.cons_append] at hparse
      rw [htext, List.cons_append]
      show parseValue readNumber (fuel + 1) ('[' :: c :: (text ++ _)) = _
      unfold parseValue
      rw [skipSpace_cons (show isSpace '[' = false by decide)]
      simp only [skipSpace_cons (isSpace_of_kindOf (hkind.trans_lt hlt))]
      split
      · next heq =>
        rw [(List.cons.inj heq).1] at hkind
        rw [← hkind] at hlt
        exact absurd hlt (by decide)
      · rw [show "]".toList ++ x = ']' :: x from rfl, hparse, reread, rereadItems_eq_map]
        rfl
  | obj members ih =>
    exact readsFront_obj fun m hm => ih m hm ((everywhere_obj.1 h).2 m hm)

theorem ReadsFront.parse_eq {value : Json} (h : ReadsFront readNumber value) :
    parse readNumber value.stringify = some value.reread := by
  have hvalue := h (value.stringify.length + 1) []
    (by rw [String.length_toList]; exact Nat.lt_succ_self _) stops_nil
  rw [List.append_nil] at hvalue
  rw [parse, hvalue]
  rfl

/-- `JSON.parse` reads the text of a value without infinite numbers. -/
theorem parse_stringify (hnumbers : NumberTexts) (hread : ReadsNumbers readNumber) {value : Json}
    (h : value.Everywhere FiniteHere) :
    parse readNumber value.stringify = some value.reread :=
  (readsFront hnumbers hread h).parse_eq

omit [Host] in
/-- An object under different keys, none of them an array index, is read as it was printed when its
values are. -/
theorem reread_obj_eq {members : JsonObject} (hnodup : members.keys.Nodup)
    (hnamed : ∀ key ∈ members.keys, arrayIndex key = none)
    (hvalues : ∀ m ∈ members, m.2.reread = m.2) : (obj members).reread = obj members := by
  have hmap : mapValues reread members = members := by
    refine (List.map_congr_left fun m hm => ?_).trans (List.map_id members)
    show (m.1, m.2.reread) = m
    rw [hvalues m hm]
  have hsorted : members.Pairwise fun a b => indexLe (arrayIndex a.1) (arrayIndex b.1) = true :=
    List.pairwise_iff_forall_sublist.2 fun hab => by
      rw [hnamed _ (List.mem_map_of_mem (hab.subset (by simp))),
        hnamed _ (List.mem_map_of_mem (hab.subset (by simp)))]
      rfl
  rw [reread, rereadMembers_eq_mapValues, hmap, foldl_setMember (by simpa using hnodup),
    List.nil_append, ownOrder, hsorted.insertionSort_eq]

/-- An object of texts under different keys, none of them an array index. -/
structure OfTexts (members : JsonObject) : Prop where
  nodup : members.keys.Nodup
  named : ∀ key ∈ members.keys, arrayIndex key = none
  text : ∀ m ∈ members, ∃ s, m.2 = str s

omit [Host] in
theorem OfTexts.reread_eq {members : JsonObject} (h : OfTexts members) :
    (obj members).reread = obj members := by
  refine reread_obj_eq h.nodup h.named fun m hm => ?_
  obtain ⟨s, hs⟩ := h.text m hm
  simp [hs, reread]

/-- `JSON.parse` reads an object of texts back. -/
theorem OfTexts.parse_eq {members : JsonObject} (h : OfTexts members) :
    parse readNumber (obj members).stringify = some (obj members) := by
  rw [ReadsFront.parse_eq, h.reread_eq]
  refine readsFront_obj fun m hm => ?_
  obtain ⟨s, hs⟩ := h.text m hm
  rw [hs]
  exact readsFront_str s

end Values

end Json

end ChecksAndBalances
