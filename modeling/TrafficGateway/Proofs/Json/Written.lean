import TrafficGateway.Json.Reader
import TrafficGateway.Json.Writer
import TrafficGateway.Proofs.Outcome
import TrafficGateway.Proofs.Text.Numeral
import TrafficGateway.Route.Config

/-!
# JSON that is read again

A document that JSON can write is read from its text (`Json.read_render`), if it nests no deeper than a
text may. Strings are read character by character (`Json.readString_escape`), a number ends at a sign
that may come behind a value (`Json.Stops`), and a list or a table is read item by item once its items
are (`Json.ReadsBack`). Every call of the reader is paid for by characters of the text, two calls by
each, so the length of the text bounds the calls.

## Main definitions

* `Json.Writable`: JSON can write the document.
* `Json.ReadsBack`: the document is read from its text, whatever comes behind.

## Main statements

* `Json.Writable.readsBack`: every document that can be written is read from its text.
* `Json.scan_render`, `Json.read_render`: so it is when the text holds nothing else, and all of it can be
  taken.
-/

namespace TrafficGateway.Json

variable {fuel depth : Nat} {rest : List Char}

/-! ## Strings -/

theorem readHex4_control : ∀ n < 0x20, ∀ rest : List Char,
    readHex4 ('0' :: '0' :: hexDigit (n / 16) :: hexDigit n :: rest) = .ok (n, rest) := by
  have hdigits : ∀ n < 0x20,
      Numeral.readBase 16 ['0', '0', hexDigit (n / 16), hexDigit n] = some n := by decide
  intro n hn rest
  rw [readHex4, hdigits n hn]

/-- The characters with an escape of two characters. -/
def shortEscapes : List Char :=
  ['"', '\\', '\n', '\r', '\t', '\x08', '\x0c']

/-- A character is read from its written form. -/
theorem readString_escape (c : Char) (acc cs : List Char) :
    readString (fuel + 1) (some acc) (escape c ++ cs) = readString fuel (some (c :: acc)) cs := by
  -- These can be tried one by one; of the others only the controls are escaped, by their number.
  have hshort : ∀ c ∈ shortEscapes,
      readString (fuel + 1) (some acc) (escape c ++ cs) = readString fuel (some (c :: acc)) cs := by
    simp only [shortEscapes, List.forall_mem_cons]
    exact ⟨rfl, rfl, rfl, rfl, rfl, rfl, rfl, nofun⟩
  by_cases hc : c ∈ shortEscapes
  · exact hshort c hc
  · simp only [shortEscapes, List.mem_cons, List.not_mem_nil, or_false, not_or] at hc
    obtain ⟨hquote, hslash, hnewline, hreturn, htab, hback, hfeed⟩ := hc
    by_cases hcontrol : c.toNat < 0x20
    · have hlow : ¬(0xDC00 ≤ c.toNat ∧ c.toNat ≤ 0xDFFF) := by omega
      have hhigh : ¬(0xD800 ≤ c.toNat ∧ c.toNat ≤ 0xDBFF) := by omega
      simp [escape, hquote, hslash, hnewline, hreturn, htab, hback, hfeed, hcontrol, readString,
        push, readEscape, readUnicode, readHex4_control c.toNat hcontrol, hlow, hhigh]
    · simp [escape, hquote, hslash, hnewline, hreturn, htab, hback, hfeed, hcontrol, readString, push]

theorem readString_flatMap (s : List Char) (hfuel : s.length < fuel) (acc rest : List Char) :
    readString fuel (some acc) (s.flatMap escape ++ '"' :: rest) =
      .ok (some (String.ofList (acc.reverse ++ s)), rest) := by
  induction s generalizing fuel acc with
  | nil =>
    obtain ⟨fuel, rfl⟩ := Nat.exists_eq_succ_of_ne_zero (Nat.ne_of_gt hfuel)
    simp [readString]
  | cons c s ih =>
    rw [List.length_cons] at hfuel
    obtain ⟨fuel, rfl⟩ := Nat.exists_eq_succ_of_ne_zero (Nat.ne_of_gt (Nat.zero_lt_of_lt hfuel))
    rw [List.flatMap_cons, List.append_assoc, readString_escape, ih (Nat.lt_of_succ_lt_succ hfuel)]
    simp

theorem length_le_flatMap_escape (s : List Char) : s.length ≤ (s.flatMap escape).length := by
  have hone : ∀ c, 1 ≤ (escape c).length := fun c => by
    rw [escape]
    split_ifs <;> simp
  induction s with
  | nil => exact Nat.le_refl _
  | cons c s ih =>
    rw [List.length_cons, List.flatMap_cons, List.length_append]
    have := hone c
    omega

theorem toList_string (s : String) : (string s).toList = '"' :: s.toList.flatMap escape ++ ['"'] := by
  rw [string, String.toList_ofList]

/-- A string is read after its quote. -/
theorem readString_string (s : String) (rest : List Char) :
    readString ((s.toList.flatMap escape ++ '"' :: rest).length + 1) (some [])
      (s.toList.flatMap escape ++ '"' :: rest) = .ok (some s, rest) := by
  have hlength := length_le_flatMap_escape s.toList
  rw [readString_flatMap s.toList (by rw [List.length_append]; omega)]
  simp

/-! ## Numbers -/

/-- What may come behind a value: the end, or a sign that goes on with a list or a table. -/
def Stops (rest : List Char) : Prop :=
  ∀ c ∈ rest.head?, c = ',' ∨ c = ']' ∨ c = '\x7d'

theorem Stops.digitValue (h : Stops rest) {c : Char} (hc : c ∈ rest.head?) :
    (Numeral.digitValue c).isSome = false := by
  rcases h c hc with rfl | rfl | rfl <;> rfl

theorem spanDigits_toDigits (h : Stops rest) (n : Nat) :
    spanDigits (Nat.toDigits 10 n ++ rest) = (Nat.toDigits 10 n, rest) :=
  Numeral.span_toDigits (by decide) (fun d hd => by rw [Numeral.digitValue_digitChar hd]; rfl)
    (fun _ hc => h.digitValue hc) n

theorem readFraction_stops (h : Stops rest) : readFraction rest = .ok (none, rest) := by
  cases rest with
  | nil => rfl
  | cons c rest =>
    rcases h c rfl with rfl | rfl | rfl <;> rfl

theorem readExponent_stops (h : Stops rest) : readExponent rest = .ok (none, rest) := by
  cases rest with
  | nil => rfl
  | cons c rest =>
    rcases h c rfl with rfl | rfl | rfl <;> rfl

/-- The digits of a number with the sign in front of them. -/
theorem readNumber_toDigits {n : Nat} {d : Document} (negative : Bool) (hrest : Stops rest)
    (hd : (NumberText.mk negative (Nat.toDigits 10 n) none none).toDocument = d) :
    readNumber ((if negative then ['-'] else []) ++ (Nat.toDigits 10 n ++ rest)) = .ok (d, rest) := by
  obtain ⟨c, cs, hdigits⟩ := List.exists_cons_of_ne_nil
    (Numeral.toDigits_ne_nil (by decide : 1 < 10) (n := n))
  have hc : c ≠ '-' := by
    obtain ⟨k, hk, rfl⟩ := Numeral.exists_of_mem_toDigits (by decide) (hdigits ▸ List.mem_cons_self)
    exact (by decide : ∀ k < 10, Nat.digitChar k ≠ '-') k hk
  -- A zero in front is the only digit.
  have hzero : ∀ e es, c :: cs ≠ '0' :: e :: es := by
    rintro e es heq
    by_cases hn : n = 0
    · subst hn
      cases hdigits.trans heq
    · exact Numeral.toDigits_head? (by decide : 1 < 10) (by decide) hn (by rw [hdigits, heq]; rfl)
  have hnoSign : ∀ cs', Nat.toDigits 10 n ++ rest ≠ '-' :: cs' := by
    rintro cs' heq
    rw [hdigits] at heq
    exact hc (List.cons.inj heq).1
  have hwhole := spanDigits_toDigits hrest n
  have hfraction := readFraction_stops hrest
  have hexponent := readExponent_stops hrest
  cases negative
  case' true =>
    simp only [if_true, List.cons_append, List.nil_append, readNumber, hwhole, hfraction, hexponent,
      ok_bind, hd]
  case' false =>
    simp only [Bool.false_eq_true, if_false, List.nil_append]
    rw [readNumber]
    swap
    · exact hnoSign
    simp only [hwhole, hfraction, hexponent, ok_bind, hd]
  all_goals
    rw [hdigits]
    split
    · next heq => cases heq
    · next heq => exact absurd heq (hzero _ _)
    · rfl

theorem toList_negSucc (m : Nat) :
    (toString (Int.negSucc m)).toList = '-' :: Nat.toDigits 10 (m + 1) := by
  show ("-" ++ Nat.repr (m + 1)).toList = _
  simp

theorem readNumber_int {n : Int} (hlow : -(UInt64.size / 2 : Nat) ≤ n) (hhigh : n < UInt64.size)
    (hrest : Stops rest) : readNumber ((toString n).toList ++ rest) = .ok (.int n, rest) := by
  have hvalue : ∀ m, digitsValue (Nat.toDigits 10 m) = m := fun m => by
    rw [digitsValue, Numeral.read_toDigits, Option.getD_some]
  cases n with
  | ofNat m =>
    have htext : (toString (Int.ofNat m)).toList = Nat.toDigits 10 m := Nat.toList_repr
    have hm : m < UInt64.size := Int.ofNat_lt.1 hhigh
    rw [htext]
    exact readNumber_toDigits false hrest (by simp [NumberText.toDocument, hvalue, hm])
  | negSucc m =>
    have hm : m + 1 ≤ UInt64.size / 2 := by omega
    have hd : (NumberText.mk true (Nat.toDigits 10 (m + 1)) none none).toDocument =
        .int (Int.negSucc m) := by
      simp only [NumberText.toDocument, hvalue, if_true, if_pos (And.intro (Nat.succ_pos m) hm)]
      rfl
    rw [toList_negSucc]
    exact readNumber_toDigits true hrest hd

/-! ## Values -/

/-- Documents that JSON writes as they are: numbers fit 64 bits, and no scalar leaves its type to the
reader. -/
inductive Writable : Document → Prop where
  | null : Writable .null
  | bool (b : Bool) : Writable (.bool b)
  | int {n : Int} (hlow : -(UInt64.size / 2 : Nat) ≤ n) (hhigh : n < UInt64.size) : Writable (.int n)
  | text (s : String) : Writable (.text s)
  | list {items : List Document} (h : ∀ d ∈ items, Writable d) : Writable (.list items)
  | table {entries : List (String × Document)} (h : ∀ e ∈ entries, Writable e.2) :
    Writable (.table entries)

theorem writable_nat {n : Nat} (h : n < UInt64.size) : Writable (.nat n) :=
  .int (by omega) (Int.ofNat_lt.2 h)

theorem writable_map {α : Type} {encode : α → Document} {as : List α}
    (h : ∀ a, Writable (encode a)) : Writable (.list (as.map encode)) :=
  .list fun d hd => by
    obtain ⟨a, -, rfl⟩ := List.mem_map.1 hd
    exact h a

theorem writable_ofFields {fields : List (String × Option Document)}
    (h : ∀ f ∈ fields, ∀ d ∈ f.2, Writable d) : Writable (.ofFields fields) :=
  .table fun e he => by
    obtain ⟨f, hf, he⟩ := List.mem_filterMap.1 he
    obtain ⟨d, hd, rfl⟩ := Option.map_eq_some_iff.1 he
    exact h f hf d hd

/-- A number begins with a sign or with a digit. -/
theorem toString_int_head (n : Int) :
    ∃ c cs, (toString n).toList = c :: cs ∧ (c = '-' ∨ ∃ d < 10, c = Nat.digitChar d) := by
  cases n with
  | ofNat m =>
    obtain ⟨c, cs, hdigits⟩ :=
      List.exists_cons_of_ne_nil (Numeral.toDigits_ne_nil (by decide : 1 < 10) (n := m))
    have htext : (toString (Int.ofNat m)).toList = c :: cs := Nat.toList_repr.trans hdigits
    exact ⟨c, cs, htext,
      .inr (Numeral.exists_of_mem_toDigits (by decide) (hdigits ▸ List.mem_cons_self))⟩
  | negSucc m => exact ⟨'-', _, toList_negSucc m, .inl rfl⟩

/-- The first character of a written document neither is a blank nor closes a list. -/
theorem render_head {d : Document} (h : Writable d) :
    ∃ c cs, (render d).toList = c :: cs ∧ isSpace c = false ∧ c ≠ ']' := by
  cases h with
  | null => exact ⟨_, _, rfl, rfl, by decide⟩
  | bool b => cases b <;> exact ⟨_, _, rfl, rfl, by decide⟩
  | @int n hlow hhigh =>
    obtain ⟨c, cs, htext, hc⟩ := toString_int_head n
    refine ⟨c, cs, by rw [render, htext], ?_⟩
    rcases hc with rfl | ⟨d, hd, rfl⟩
    · decide
    · exact (by decide : ∀ d < 10, isSpace (Nat.digitChar d) = false ∧ Nat.digitChar d ≠ ']') d hd
  | text s =>
    rw [render, toList_string]
    exact ⟨_, _, rfl, rfl, by decide⟩
  | @list items _ =>
    cases items with
    | nil => exact ⟨_, _, rfl, rfl, by decide⟩
    | cons d ds =>
      rw [render, String.toList_append, String.toList_append]
      exact ⟨_, _, rfl, rfl, by decide⟩
  | @table entries _ =>
    cases entries with
    | nil => exact ⟨_, _, rfl, rfl, by decide⟩
    | cons e ds =>
      obtain ⟨k, d⟩ := e
      rw [render, String.toList_append, String.toList_append, String.toList_append,
        String.toList_append]
      exact ⟨_, _, rfl, rfl, by decide⟩

theorem skipSpace_render {d : Document} (h : Writable d) (rest : List Char) :
    skipSpace ((render d).toList ++ rest) = (render d).toList ++ rest := by
  obtain ⟨c, cs, hcs, hc, -⟩ := render_head h
  rw [hcs, List.cons_append, skipSpace, List.dropWhile_cons_of_neg (by simp [hc])]

theorem readValue_int {n : Int} (hlow : -(UInt64.size / 2 : Nat) ≤ n) (hhigh : n < UInt64.size)
    (hrest : Stops rest) :
    readValue (fuel + 1) depth ((toString n).toList ++ rest) = .ok (.int n, rest) := by
  rw [← readNumber_int hlow hhigh hrest]
  obtain ⟨c, cs, htext, hc⟩ := toString_int_head n
  rw [htext, List.cons_append]
  rcases hc with rfl | ⟨d, hd, rfl⟩
  · simp [readValue]
  · have hvalue : (Numeral.digitValue (Nat.digitChar d)).isSome = true := by
      rw [Numeral.digitValue_digitChar hd]
      rfl
    have hother : Nat.digitChar d ≠ 'n' ∧ Nat.digitChar d ≠ 't' ∧ Nat.digitChar d ≠ 'f' ∧
        Nat.digitChar d ≠ '"' ∧ Nat.digitChar d ≠ '[' ∧ Nat.digitChar d ≠ '\x7b' := by
      exact (by decide : ∀ d < 10, Nat.digitChar d ≠ 'n' ∧ Nat.digitChar d ≠ 't' ∧
        Nat.digitChar d ≠ 'f' ∧ Nat.digitChar d ≠ '"' ∧ Nat.digitChar d ≠ '[' ∧
        Nat.digitChar d ≠ '\x7b') d hd
    simp [readValue, hvalue, hother]

theorem readValue_string (s : String) (rest : List Char) :
    readValue (fuel + 1) depth ((string s).toList ++ rest) = .ok (.text s, rest) := by
  rw [toList_string, List.append_assoc, List.cons_append]
  simp only [readValue, List.singleton_append, readString_string, ok_bind]
  rfl

/-! ## Lists and tables -/

variable {cs cs' : List Char} {d : Document} {items : List Document} {key : String}
  {entries : List (String × Document)}

theorem nested_of_lt (hdepth : 1 < depth) : nested depth d = d :=
  if_neg (Nat.not_le.2 hdepth)

theorem readValue_list (hdepth : 1 < depth) (hspace : skipSpace cs = cs) (hfirst : cs.head? ≠ some ']')
    (hitems : readItems fuel (depth - 1) cs = .ok (items, rest)) :
    readValue (fuel + 1) depth ('[' :: cs) = .ok (.list items, rest) := by
  rw [readValue, hspace]
  split
  · exact absurd rfl hfirst
  · rw [hitems, ok_bind]
    simp only [nested_of_lt hdepth]
    rfl

/-- A sign that is no blank comes next. -/
theorem skipSpace_sign {c : Char} (hc : isSpace c = false) : skipSpace (c :: cs) = c :: cs :=
  List.dropWhile_cons_of_neg (by simp [hc])

theorem readItems_comma (hvalue : readValue fuel depth (skipSpace cs) = .ok (d, ',' :: cs'))
    (hitems : readItems fuel depth cs' = .ok (items, rest)) :
    readItems (fuel + 1) depth cs = .ok (d :: items, rest) := by
  rw [readItems, hvalue, ok_bind]
  simp only [skipSpace_sign (show isSpace ',' = false from rfl), hitems]
  rfl

theorem readItems_bracket (hvalue : readValue fuel depth (skipSpace cs) = .ok (d, ']' :: rest)) :
    readItems (fuel + 1) depth cs = .ok ([d], rest) := by
  rw [readItems, hvalue, ok_bind]
  rfl

theorem readValue_table (hdepth : 1 < depth) (hspace : skipSpace cs = cs)
    (hfirst : cs.head? ≠ some '\x7d')
    (hentries : readEntries fuel (depth - 1) cs = .ok (some entries, rest)) :
    readValue (fuel + 1) depth ('\x7b' :: cs) = .ok (.table entries, rest) := by
  rw [readValue, hspace]
  split
  · exact absurd rfl hfirst
  · rw [hentries, ok_bind]
    simp only [nested_of_lt hdepth]
    rfl

theorem readEntries_comma (hvalue : readValue fuel depth (skipSpace cs) = .ok (d, ',' :: cs'))
    (hentries : readEntries fuel depth cs' = .ok (some entries, rest)) :
    readEntries (fuel + 1) depth ((string key).toList ++ ':' :: cs) =
      .ok (some ((key, d) :: entries), rest) := by
  rw [toList_string, List.append_assoc, List.cons_append, readEntries, skipSpace_sign rfl]
  simp only [List.singleton_append, readString_string, ok_bind,
    skipSpace_sign (show isSpace ':' = false from rfl), hvalue,
    skipSpace_sign (show isSpace ',' = false from rfl), hentries]
  rfl

theorem readEntries_brace (hvalue : readValue fuel depth (skipSpace cs) = .ok (d, '\x7d' :: rest)) :
    readEntries (fuel + 1) depth ((string key).toList ++ ':' :: cs) = .ok (some [(key, d)], rest) := by
  rw [toList_string, List.append_assoc, List.cons_append, readEntries, skipSpace_sign rfl]
  simp only [List.singleton_append, readString_string, ok_bind,
    skipSpace_sign (show isSpace ':' = false from rfl), hvalue,
    skipSpace_sign (show isSpace '\x7d' = false from rfl)]
  rfl

/-! ## Documents -/

/-- No document is written as the empty text. -/
theorem exists_fuel (h : Writable d) (hfuel : 2 * (render d).toList.length ≤ fuel) :
    ∃ fuel', fuel = fuel' + 1 := by
  obtain ⟨c, cs, hcs, -, -⟩ := render_head h
  rw [hcs, List.length_cons] at hfuel
  exact Nat.exists_eq_succ_of_ne_zero (by omega)

/-- A document is read from its text, in front of whatever may come behind a value. Every level of the
text takes two calls, and at least one character. -/
def ReadsBack (d : Document) : Prop :=
  ∀ {fuel depth : Nat} {rest : List Char}, d.depth < depth → 2 * (render d).toList.length ≤ fuel →
    Stops rest → readValue fuel depth ((render d).toList ++ rest) = .ok (d, rest)

theorem Stops.cons {c : Char} (hc : c = ',' ∨ c = ']' ∨ c = '\x7d') : Stops (c :: rest) :=
  fun _ h => Option.some.inj h ▸ hc

/-- Written items are read up to the closing bracket. -/
theorem readItems_render {ds : List Document} (hitems : ∀ e ∈ d :: ds, Writable e ∧ ReadsBack e)
    (hdepth : Document.depth.depthOfItems (d :: ds) < depth)
    (hfuel : 2 * ((render d).toList ++ (renderItems ds).toList).length ≤ fuel) :
    readItems fuel depth ((render d).toList ++ ((renderItems ds).toList ++ rest)) =
      .ok (d :: ds, rest) := by
  induction ds generalizing d fuel with
  | nil =>
    obtain ⟨hwritable, hread⟩ := hitems d List.mem_cons_self
    rw [Document.depth.depthOfItems, Nat.max_lt] at hdepth
    have htail : (renderItems []).toList = [']'] := rfl
    rw [htail, List.length_append, List.length_singleton] at hfuel
    obtain ⟨fuel, rfl⟩ : ∃ fuel', fuel = fuel' + 1 :=
      Nat.exists_eq_succ_of_ne_zero (by omega)
    refine readItems_bracket ?_
    rw [skipSpace_render hwritable]
    exact hread hdepth.1 (by omega) (.cons (.inr (.inl rfl)))
  | cons e ds ih =>
    obtain ⟨⟨hwritable, hread⟩, hitems⟩ := List.forall_mem_cons.1 hitems
    rw [Document.depth.depthOfItems, Nat.max_lt] at hdepth
    have htail : (renderItems (e :: ds)).toList =
        ',' :: ((render e).toList ++ (renderItems ds).toList) := by
      rw [renderItems, String.toList_append, String.toList_append]
      rfl
    -- The comma pays for the two calls that read this item and go on with the rest.
    rw [htail, List.length_append, List.length_cons] at hfuel
    obtain ⟨fuel, rfl⟩ : ∃ fuel', fuel = fuel' + 1 :=
      Nat.exists_eq_succ_of_ne_zero (by omega)
    rw [htail]
    refine readItems_comma ?_ (ih hitems hdepth.2 (by omega))
    rw [skipSpace_render hwritable, List.cons_append, List.append_assoc]
    exact hread hdepth.1 (by omega) (.cons (.inl rfl))

/-- Written entries are read up to the closing brace. -/
theorem readEntries_render {es : List (String × Document)}
    (hentries : ∀ e ∈ (key, d) :: es, Writable e.2 ∧ ReadsBack e.2)
    (hdepth : Document.depth.depthOfEntries ((key, d) :: es) < depth)
    (hfuel : 2 * ((render d).toList ++ (renderEntries es).toList).length ≤ fuel) :
    readEntries fuel depth ((string key).toList ++ ':' :: ((render d).toList ++
      ((renderEntries es).toList ++ rest))) = .ok (some ((key, d) :: es), rest) := by
  induction es generalizing key d fuel with
  | nil =>
    obtain ⟨hwritable, hread⟩ : Writable d ∧ ReadsBack d := hentries _ List.mem_cons_self
    rw [Document.depth.depthOfEntries, Nat.max_lt] at hdepth
    have htail : (renderEntries []).toList = ['\x7d'] := rfl
    rw [htail, List.length_append, List.length_singleton] at hfuel
    obtain ⟨fuel, rfl⟩ : ∃ fuel', fuel = fuel' + 1 :=
      Nat.exists_eq_succ_of_ne_zero (by omega)
    refine readEntries_brace ?_
    rw [skipSpace_render hwritable]
    exact hread hdepth.1 (by omega) (.cons (.inr (.inr rfl)))
  | cons e es ih =>
    obtain ⟨key', e⟩ := e
    obtain ⟨hwritable, hread⟩ : Writable d ∧ ReadsBack d := hentries _ List.mem_cons_self
    replace hentries := (List.forall_mem_cons.1 hentries).2
    rw [Document.depth.depthOfEntries, Nat.max_lt] at hdepth
    have htail : (renderEntries ((key', e) :: es)).toList =
        ',' :: ((string key').toList ++ ':' :: ((render e).toList ++ (renderEntries es).toList)) := by
      rw [renderEntries]
      simp
    rw [htail, List.length_append, List.length_cons, List.length_append, List.length_cons] at hfuel
    obtain ⟨fuel, rfl⟩ : ∃ fuel', fuel = fuel' + 1 :=
      Nat.exists_eq_succ_of_ne_zero (by omega)
    rw [htail]
    refine readEntries_comma ?_ (ih hentries hdepth.2 (by omega))
    rw [skipSpace_render hwritable, List.cons_append, List.append_assoc, List.cons_append,
      List.append_assoc]
    exact hread hdepth.1 (by omega) (.cons (.inl rfl))

theorem Writable.readsBack_list {items : List Document}
    (hitems : ∀ e ∈ items, Writable e ∧ ReadsBack e) : ReadsBack (.list items) := by
  intro fuel depth rest hdepth hfuel _
  rw [Document.depth] at hdepth
  have hopen : 1 < depth := by omega
  cases items with
  | nil =>
    obtain ⟨fuel, rfl⟩ := exists_fuel (.list (List.forall_mem_nil _)) hfuel
    simp [render, readValue, nested_of_lt hopen, skipSpace_sign, isSpace]
  | cons d ds =>
    have htext : (render (.list (d :: ds))).toList =
        '[' :: ((render d).toList ++ (renderItems ds).toList) := by
      rw [render, String.toList_append, String.toList_append]
      rfl
    rw [htext, List.length_cons] at hfuel
    obtain ⟨fuel, rfl⟩ : ∃ fuel', fuel = fuel' + 1 :=
      Nat.exists_eq_succ_of_ne_zero (by omega)
    obtain ⟨c, cs, hcs, -, hbracket⟩ := render_head (hitems d List.mem_cons_self).1
    rw [htext, List.cons_append, List.append_assoc]
    -- An item comes next, which cannot be taken for the closing bracket.
    refine readValue_list hopen (skipSpace_render (hitems d List.mem_cons_self).1 _) ?_
      (readItems_render hitems (by omega) (by omega))
    rw [hcs]
    simpa using hbracket

theorem Writable.readsBack_table {entries : List (String × Document)}
    (hentries : ∀ e ∈ entries, Writable e.2 ∧ ReadsBack e.2) : ReadsBack (.table entries) := by
  intro fuel depth rest hdepth hfuel _
  rw [Document.depth] at hdepth
  have hopen : 1 < depth := by omega
  cases entries with
  | nil =>
    obtain ⟨fuel, rfl⟩ := exists_fuel (.table (List.forall_mem_nil _)) hfuel
    simp [render, readValue, nested_of_lt hopen, skipSpace_sign, isSpace]
  | cons e es =>
    obtain ⟨key, d⟩ := e
    have htext : (render (.table ((key, d) :: es))).toList =
        '\x7b' :: ((string key).toList ++ ':' :: ((render d).toList ++ (renderEntries es).toList)) := by
      rw [render]
      simp
    rw [htext, List.length_cons, List.length_append, List.length_cons] at hfuel
    obtain ⟨fuel, rfl⟩ : ∃ fuel', fuel = fuel' + 1 :=
      Nat.exists_eq_succ_of_ne_zero (by omega)
    rw [htext, List.cons_append, List.append_assoc, List.cons_append, List.append_assoc]
    refine readValue_table hopen ?_ ?_ (readEntries_render hentries (by omega) (by omega))
    · rw [toList_string]
      exact skipSpace_sign rfl
    · rw [toList_string]
      simp

/-- A writable document is read from its text, in front of whatever may come behind a value. -/
theorem Writable.readsBack {d : Document} (h : Writable d) : ReadsBack d := by
  induction h with
  | list hitems ih => exact readsBack_list fun e he => ⟨hitems e he, ih e he⟩
  | table hentries ih => exact readsBack_table fun e he => ⟨hentries e he, ih e he⟩
  | null =>
    intro fuel depth rest _ hfuel _
    obtain ⟨fuel, rfl⟩ := exists_fuel .null hfuel
    rfl
  | bool b =>
    intro fuel depth rest _ hfuel _
    obtain ⟨fuel, rfl⟩ := exists_fuel (.bool b) hfuel
    cases b <;> rfl
  | int hlow hhigh =>
    intro fuel depth rest _ hfuel hrest
    obtain ⟨fuel, rfl⟩ := exists_fuel (.int hlow hhigh) hfuel
    exact readValue_int hlow hhigh hrest
  | text s =>
    intro fuel depth rest _ hfuel _
    obtain ⟨fuel, rfl⟩ := exists_fuel (.text s) hfuel
    exact readValue_string s rest

/-- A writable document that is not nested too deep is read from its text. -/
theorem scan_render {d : Document} (h : Writable d) (hdepth : d.depth < depthLimit) :
    scan (render d) = .ok d := by
  have hspace := skipSpace_render h []
  have hread : readValue (2 * (render d).toList.length + 2) depthLimit ((render d).toList ++ []) =
      .ok (d, []) := h.readsBack hdepth (by omega) nofun
  rw [List.append_nil] at hspace hread
  rw [scan]
  simp only [hspace, hread, ok_bind]
  rfl

/-! ## Whole documents -/

theorem isReadable_list {items : List Document} :
    (Document.list items).isReadable = true ↔ ∀ d ∈ items, d.isReadable = true := by
  rw [Document.isReadable]
  induction items with
  | nil => simp [Document.isReadable.allItems]
  | cons d ds ih => rw [Document.isReadable.allItems, Bool.and_eq_true, ih, List.forall_mem_cons]

theorem isReadable_table {entries : List (String × Document)} :
    (Document.table entries).isReadable = true ↔ ∀ e ∈ entries, e.2.isReadable = true := by
  rw [Document.isReadable]
  induction entries with
  | nil => simp [Document.isReadable.allEntries]
  | cons e es ih => rw [Document.isReadable.allEntries, Bool.and_eq_true, ih, List.forall_mem_cons]

theorem Writable.isReadable {d : Document} (h : Writable d) : d.isReadable = true := by
  induction h with
  | list _ ih => exact isReadable_list.2 ih
  | table _ ih => exact isReadable_table.2 ih
  | _ => rfl

/-- What is written can be taken whole. -/
theorem read_render {d : Document} (h : Writable d) (hdepth : d.depth < depthLimit) :
    read (render d) = .ok d := by
  rw [read, scan_render h hdepth, ok_bind, if_pos h.isReadable]
  rfl

end TrafficGateway.Json
