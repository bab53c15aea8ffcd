import Mathlib.Data.List.Basic
import TrafficGateway.Http.Address
import TrafficGateway.Proofs.Text.Numeral

/-!
# Socket addresses that are read back

Every address that can be read has a text of its own, which is read as the same address
(`SocketAddress.read_render`). What makes the text of an address of the sixth version readable is that
each of its parts ends at a sign that cannot go on in it: groups at a colon, the front of a shortened
address at two of them, the whole at a percent sign or a bracket (`IpAddress.Closes`). In front of a
group a reader also looks for four bytes, and finds none because no point follows its digits.

## Main definitions

* `SocketAddress.IsValid`: bytes, groups, port and scope are in range.

## Main statements

* `SocketAddress.isValid_of_read`: what is read is valid.
* `SocketAddress.read_render`: a valid address is read from its text.
-/

namespace TrafficGateway

namespace IpAddress

/-- The parts of an address are in range. -/
def IsValid : IpAddress → Prop
  | v4 bytes => bytes.length = 4 ∧ ∀ b ∈ bytes, b < 256
  | v6 groups => groups.length = 8 ∧ ∀ g ∈ groups, g < 65536

/-! ## Numbers -/

/-- Is the character a digit of the base? -/
def isDigitOf (base : Nat) (c : Char) : Bool :=
  ((Numeral.hexValue c).map (decide <| · < base)).getD false

/-- A text in which no digit comes next. -/
def Ends (rest : List Char) : Prop :=
  ∀ c ∈ rest.head?, Numeral.hexValue c = none

variable {base limit n : Nat} {cs rest : List Char}

theorem readDigits_eq (base limit : Nat) (cs : List Char) :
    readDigits base limit cs =
      if limit < (cs.takeWhile (isDigitOf base)).length then none
      else (Numeral.readBase base (cs.takeWhile (isDigitOf base))).map fun n =>
        (cs.takeWhile (isDigitOf base), n, cs.dropWhile (isDigitOf base)) := by
  rw [readDigits, show (fun c => ((Numeral.hexValue c).map (decide <| · < base)).getD false) =
    isDigitOf base from rfl, List.span_eq_takeWhile_dropWhile]

theorem readDigits_toDigits (hbase : 1 < base) (hle : base ≤ 16)
    (hlimit : (Nat.toDigits base n).length ≤ limit) (hrest : Ends rest) :
    readDigits base limit (Nat.toDigits base n ++ rest) = some (Nat.toDigits base n, n, rest) := by
  have hdigit : ∀ d < base, isDigitOf base (Nat.digitChar d) = true := fun d hd => by
    simp [isDigitOf, Numeral.hexValue_digitChar (Nat.lt_of_lt_of_le hd hle), hd]
  have hend : ∀ c ∈ rest.head?, isDigitOf base c = false := fun c hc => by
    simp [isDigitOf, hrest c hc]
  have hspan := Numeral.span_toDigits hbase hdigit hend n
  rw [List.span_eq_takeWhile_dropWhile, Prod.mk.injEq] at hspan
  rw [readDigits_eq, hspan.1, hspan.2, if_neg (Nat.not_lt.2 hlimit),
    Numeral.readBase_toDigits hbase hle, Option.map_some]

theorem lt_of_readDigits {digits : List Char}
    (h : readDigits base limit cs = some (digits, n, rest)) :
    n < base ^ digits.length ∧ digits.length ≤ limit ∧ rest = cs.dropWhile (isDigitOf base) := by
  rw [readDigits_eq] at h
  split at h
  · cases h
  · next hlimit =>
    obtain ⟨m, hread, heq⟩ := Option.map_eq_some_iff.1 h
    cases heq
    exact ⟨Numeral.readBase_lt hread, Nat.le_of_not_lt hlimit, rfl⟩

/-! ## Bytes -/

theorem lt_of_readByte {b : Nat} (h : readByte cs = some (b, rest)) :
    b < 256 ∧ rest = cs.dropWhile (isDigitOf 10) := by
  obtain ⟨⟨digits, m, rest'⟩, hdigits, h⟩ := Option.bind_eq_some_iff.1 h
  dsimp only at h
  split at h
  · next hbyte =>
    cases h
    exact ⟨hbyte.1, (lt_of_readDigits hdigits).2.2⟩
  · cases h

theorem readByte_toDigits {b : Nat} (hb : b < 256) (hrest : Ends rest) :
    readByte (Nat.toDigits 10 b ++ rest) = some (b, rest) := by
  have hlimit : (Nat.toDigits 10 b).length ≤ 3 :=
    (Nat.length_toDigits_le_iff (by decide) (by decide)).2 (by omega)
  have hzero : (Nat.toDigits 10 b).head? ≠ some '0' ∨ (Nat.toDigits 10 b).length = 1 := by
    by_cases h : b = 0
    · subst h
      exact .inr rfl
    · exact .inl (Numeral.toDigits_head? (by decide) (by decide) h)
  rw [readByte, readDigits_toDigits (by decide) (by decide) hlimit hrest]
  exact if_pos ⟨hb, hzero⟩

theorem readBytes_valid {bytes : List Nat} (h : readBytes n cs = some (bytes, rest)) :
    bytes.length = n ∧ ∀ b ∈ bytes, b < 256 := by
  induction n, cs using readBytes.induct generalizing bytes rest with
  | case1 cs =>
    cases h
    exact ⟨rfl, nofun⟩
  | case2 cs =>
    obtain ⟨⟨b, rest'⟩, hb, h⟩ := Option.bind_eq_some_iff.1 h
    cases h
    exact ⟨rfl, by simpa using (lt_of_readByte hb).1⟩
  | case3 n cs ih =>
    obtain ⟨⟨b, rest'⟩, hb, h⟩ := Option.bind_eq_some_iff.1 h
    obtain ⟨behind, -, h⟩ := Option.bind_eq_some_iff.1 h
    obtain ⟨⟨bs, rest''⟩, hbs, h⟩ := Option.bind_eq_some_iff.1 h
    cases h
    obtain ⟨hlength, hlt⟩ := ih behind hbs
    exact ⟨by rw [List.length_cons, hlength], List.forall_mem_cons.2 ⟨(lt_of_readByte hb).1, hlt⟩⟩

/-- Four bytes with points between them, in front of a text in which no digit comes next. -/
theorem readBytes_render {bytes : List Nat} (h : (v4 bytes).IsValid) (hrest : Ends rest) :
    readBytes 4 ((renderBytes bytes).toList ++ rest) = some (bytes, rest) := by
  obtain ⟨hlength, hbytes⟩ := h
  obtain ⟨a, b, c, d, rfl⟩ : ∃ a b c d, bytes = [a, b, c, d] := by
    match bytes, hlength with
    | [a, b, c, d], _ => exact ⟨a, b, c, d, rfl⟩
  simp only [List.forall_mem_cons] at hbytes
  obtain ⟨ha, hb, hc, hd, -⟩ := hbytes
  have hpoint : ∀ cs, Ends ('.' :: cs) := fun _ _ h => Option.some.inj h ▸ rfl
  have htext : (renderBytes [a, b, c, d]).toList ++ rest =
      Nat.toDigits 10 a ++ '.' :: (Nat.toDigits 10 b ++ '.' :: (Nat.toDigits 10 c ++
        '.' :: (Nat.toDigits 10 d ++ rest))) := by
    simp [renderBytes]
  rw [htext]
  simp [readBytes, readChar, readByte_toDigits ha (hpoint _), readByte_toDigits hb (hpoint _),
    readByte_toDigits hc (hpoint _), readByte_toDigits hd hrest]

/-- Where no point comes behind the first digits there are no four bytes. -/
theorem readBytes_eq_none (h : ∀ c ∈ (cs.dropWhile (isDigitOf 10)).head?, c ≠ '.') :
    readBytes 4 cs = none := by
  rw [readBytes]
  cases hb : readByte cs with
  | none => rfl
  | some first =>
    obtain ⟨b, behind⟩ := first
    obtain ⟨-, rfl⟩ := lt_of_readByte hb
    have hpoint : readChar '.' (cs.dropWhile (isDigitOf 10)) = none := by
      cases hcs : cs.dropWhile (isDigitOf 10) with
      | nil => rfl
      | cons c rest =>
        rw [hcs] at h
        exact if_neg (h c rfl)
    simp [hpoint]

/-! ## Groups -/

/-- The signs with which groups of an address end: two colons, or what stands behind the address. -/
inductive Closes : List Char → Prop where
  | colons (rest : List Char) : Closes (':' :: ':' :: rest)
  | scope (rest : List Char) : Closes ('%' :: rest)
  | bracket (rest : List Char) : Closes (']' :: rest)

/-- The digits of a group. -/
abbrev groupDigits (g : Nat) : List Char :=
  Nat.toDigits 16 g

/-- Groups with a colon in front of each. -/
def behindColons (groups : List Nat) : List Char :=
  groups.flatMap fun g => ':' :: groupDigits g

variable {g : Nat} {groups : List Nat}

theorem renderGroups_cons (g : Nat) (groups : List Nat) :
    (renderGroups (g :: groups)).toList = groupDigits g ++ behindColons groups := by
  induction groups generalizing g with
  | nil => simp [renderGroups, behindColons, Numeral.hex]
  | cons g' groups ih =>
    have hstep : (renderGroups (g :: g' :: groups)).toList =
        groupDigits g ++ ':' :: (renderGroups (g' :: groups)).toList := by
      simp [renderGroups, Numeral.hex]
    rw [hstep, ih, behindColons, behindColons, List.flatMap_cons, List.cons_append]

/-- A text with which a group ends: neither a digit nor a point comes next. -/
def EndsGroup (rest : List Char) : Prop :=
  ∀ c ∈ rest.head?, Numeral.hexValue c = none ∧ c ≠ '.'

theorem EndsGroup.ends (h : EndsGroup rest) : Ends rest :=
  fun c hc => (h c hc).1

theorem Closes.endsGroup (h : Closes rest) : EndsGroup rest := by
  intro c hc
  cases h <;> cases hc <;> exact ⟨rfl, by decide⟩

theorem endsGroup_colon (rest : List Char) : EndsGroup (':' :: rest) :=
  fun _ hc => Option.some.inj hc ▸ ⟨rfl, by decide⟩

theorem endsGroup_behindColons (h : Closes rest) : EndsGroup (behindColons groups ++ rest) := by
  cases groups with
  | nil => exact h.endsGroup
  | cons g groups => exact endsGroup_colon _

/-- A group is not taken for the first of four bytes. -/
theorem readBytes_group (hrest : EndsGroup rest) : readBytes 4 (groupDigits g ++ rest) = none := by
  refine readBytes_eq_none fun c hc => ?_
  rw [List.dropWhile_append] at hc
  split at hc
  · cases rest with
    | nil => cases hc
    | cons d rest =>
      obtain ⟨hvalue, hpoint⟩ := hrest d rfl
      have hd : isDigitOf 10 d = false := by simp [isDigitOf, hvalue]
      rw [List.dropWhile_cons_of_neg (by simp [hd])] at hc
      exact Option.some.inj hc ▸ hpoint
  · next hne =>
    have hmem : c ∈ groupDigits g := by
      rw [List.head?_append_of_ne_nil _ (by simpa using hne)] at hc
      exact (List.dropWhile_sublist _).subset (List.mem_of_mem_head? hc)
    obtain ⟨d, hd, rfl⟩ := Numeral.exists_of_mem_toDigits (by decide) hmem
    exact (by decide : ∀ d < 16, Nat.digitChar d ≠ '.') d hd

/-- A group is read, and then the groups behind it. -/
theorem readGroups_group {isFirst : Bool} (hg : g < 65536) (hrest : EndsGroup rest)
    (hcs : (if isFirst then some cs else readChar ':' cs) = some (groupDigits g ++ rest)) :
    readGroups (limit + 1) isFirst cs =
      (g :: (readGroups limit false rest).1, (readGroups limit false rest).2) := by
  have hdigits : readDigits 16 4 (groupDigits g ++ rest) = some (groupDigits g, g, rest) :=
    readDigits_toDigits (by decide) (by decide)
      ((Nat.length_toDigits_le_iff (by decide) (by decide)).2 hg) hrest.ends
  have hbytes : (if 0 < limit then readBytes 4 else fun _ => none) (groupDigits g ++ rest) = none := by
    split
    · exact readBytes_group hrest
    · rfl
  rw [readGroups]
  simp only [hcs, Option.bind_some, hbytes, hdigits]

/-- At a closing sign no group comes next. -/
theorem readGroups_closes (h : Closes rest) (limit : Nat) (isFirst : Bool) :
    readGroups limit isFirst rest = ([], false, rest) := by
  cases limit with
  | zero => rfl
  | succ limit =>
    -- One of the two colons may be taken for the sign in front of a group, but no digit follows.
    have hnone : ∀ cs, (if isFirst then some rest else readChar ':' rest) = some cs →
        readBytes 4 cs = none ∧ readDigits 16 4 cs = none := by
      intro cs hcs
      obtain ⟨c, cs, rfl, hc, hpoint⟩ :
          ∃ c cs', cs = c :: cs' ∧ Numeral.hexValue c = none ∧ c ≠ '.' := by
        cases h <;> cases isFirst <;> cases hcs <;> exact ⟨_, _, rfl, rfl, by decide⟩
      have hdigit : ∀ base, isDigitOf base c = false := fun base => by simp [isDigitOf, hc]
      constructor
      · refine readBytes_eq_none fun d hd => ?_
        rw [List.dropWhile_cons_of_neg (by simp [hdigit])] at hd
        exact Option.some.inj hd ▸ hpoint
      · rw [readDigits_eq, List.takeWhile_cons_of_neg (by simp [hdigit])]
        rfl
    rw [readGroups]
    cases hcs : (if isFirst then some rest else readChar ':' rest) with
    | none => rfl
    | some cs =>
      obtain ⟨hbytes, hdigits⟩ := hnone cs hcs
      have hembedded : (if 0 < limit then readBytes 4 else fun _ => none) cs = none := by
        split
        · exact hbytes
        · rfl
      simp only [Option.bind_some, hembedded, hdigits]

/-- Groups with colons in front of them are read up to a closing sign. -/
theorem readGroups_behindColons (hgroups : ∀ g ∈ groups, g < 65536) (hlimit : groups.length ≤ limit)
    (hrest : Closes rest) :
    readGroups limit false (behindColons groups ++ rest) = (groups, false, rest) := by
  induction groups generalizing limit with
  | nil => exact readGroups_closes hrest limit false
  | cons g groups ih =>
    obtain ⟨hg, hgroups⟩ := List.forall_mem_cons.1 hgroups
    obtain ⟨limit, rfl⟩ := Nat.exists_eq_add_of_le' (Nat.le_trans (Nat.succ_pos _) hlimit)
    have hend : EndsGroup (behindColons groups ++ rest) := endsGroup_behindColons hrest
    rw [readGroups_group hg hend (by simp [behindColons, readChar]),
      ih hgroups (Nat.le_of_succ_le_succ hlimit)]

/-- Groups are read from their text, up to a closing sign. -/
theorem readGroups_render (hgroups : ∀ g ∈ groups, g < 65536) (hlimit : groups.length ≤ limit)
    (hrest : Closes rest) :
    readGroups limit true ((renderGroups groups).toList ++ rest) = (groups, false, rest) := by
  cases groups with
  | nil => exact readGroups_closes hrest limit true
  | cons g groups =>
    obtain ⟨hg, hgroups⟩ := List.forall_mem_cons.1 hgroups
    obtain ⟨limit, rfl⟩ := Nat.exists_eq_add_of_le' (Nat.le_trans (Nat.succ_pos _) hlimit)
    rw [renderGroups_cons, List.append_assoc,
      readGroups_group hg (endsGroup_behindColons hrest) rfl,
      readGroups_behindColons hgroups (Nat.le_of_succ_le_succ hlimit) hrest]

/-! ## Addresses of the sixth version -/

theorem groupsOfBytes_lt {bytes : List Nat} (h : ∀ b ∈ bytes, b < 256) :
    ∀ g ∈ groupsOfBytes bytes, g < 65536 := by
  induction bytes using groupsOfBytes.induct with
  | case1 a b bytes ih =>
    simp only [List.forall_mem_cons] at h
    rw [groupsOfBytes, List.forall_mem_cons]
    exact ⟨by omega, ih h.2.2⟩
  | case2 bytes hshort =>
    intro g hg
    rw [groupsOfBytes] at hg
    · cases hg
    · exact hshort

/-- No more groups are read than asked for, and they are in range. -/
theorem readGroups_valid (limit : Nat) (isFirst : Bool) (cs : List Char) :
    (readGroups limit isFirst cs).1.length ≤ limit ∧
      ∀ g ∈ (readGroups limit isFirst cs).1, g < 65536 := by
  induction limit generalizing isFirst cs with
  | zero => exact ⟨Nat.zero_le _, nofun⟩
  | succ limit ih =>
    rw [readGroups]
    dsimp only
    split
    · next bytes rest hbytes =>
      obtain ⟨start, -, hbytes⟩ := Option.bind_eq_some_iff.1 hbytes
      split at hbytes
      · next hlimit =>
        obtain ⟨hlength, hlt⟩ := readBytes_valid hbytes
        match bytes, hlength with
        | [_, _, _, _], _ => exact ⟨Nat.succ_le_succ hlimit, groupsOfBytes_lt hlt⟩
      · cases hbytes
    · split
      · next digits n rest hdigits =>
        obtain ⟨start, -, hdigits⟩ := Option.bind_eq_some_iff.1 hdigits
        obtain ⟨hn, hlength, -⟩ := lt_of_readDigits hdigits
        obtain ⟨hcount, hlt⟩ := ih false rest
        have hbound : 16 ^ digits.length ≤ 16 ^ 4 := Nat.pow_le_pow_right (by decide) hlength
        exact ⟨Nat.succ_le_succ hcount, List.forall_mem_cons.2 ⟨by omega, hlt⟩⟩
      · exact ⟨Nat.zero_le _, nofun⟩

theorem isValid_of_readV6 (h : readV6 cs = some (groups, rest)) : (v6 groups).IsValid := by
  have hfront := readGroups_valid 8 true cs
  rw [readV6] at h
  dsimp only at h
  split at h
  · next hlength =>
    cases h
    exact ⟨hlength, hfront.2⟩
  · split at h
    · cases h
    · obtain ⟨_, -, h⟩ := Option.bind_eq_some_iff.1 h
      obtain ⟨rest', -, h⟩ := Option.bind_eq_some_iff.1 h
      have hback := readGroups_valid (7 - (readGroups 8 true cs).1.length) true rest'
      cases h
      refine ⟨?_, fun g hg => ?_⟩
      · rw [List.length_append, List.length_append, List.length_replicate]
        omega
      · rw [List.mem_append, List.mem_append] at hg
        rcases hg with (hg | hg) | hg
        · exact hfront.2 g hg
        · rw [List.eq_of_mem_replicate hg]
          decide
        · exact hback.2 g hg

theorem eq_zerosInFront_append (groups : List Nat) :
    ∃ back, groups = List.replicate (zerosInFront groups) 0 ++ back := by
  refine ⟨groups.dropWhile (· == 0), ?_⟩
  have hzeros : groups.takeWhile (· == 0) = List.replicate (zerosInFront groups) 0 :=
    List.eq_replicate_of_mem fun g hg => by simpa using List.mem_takeWhile_imp hg
  rw [← hzeros, List.takeWhile_append_dropWhile]

/-- At the place that is found there are as many zero groups as are found. -/
theorem longestZeros_spec (place : Nat) (groups : List Nat) :
    ∃ front back, (longestZeros place groups).1 = place + front.length ∧
      groups = front ++ List.replicate (longestZeros place groups).2 0 ++ back := by
  induction groups generalizing place with
  | nil => exact ⟨[], [], rfl, rfl⟩
  | cons g groups ih =>
    rw [longestZeros]
    split
    · obtain ⟨back, hback⟩ := eq_zerosInFront_append (g :: groups)
      exact ⟨[], back, rfl, hback⟩
    · obtain ⟨front, back, hplace, hgroups⟩ := ih (place + 1)
      exact ⟨g :: front, back, by rw [hplace, List.length_cons]; omega, by
        rw [List.cons_append, List.cons_append, ← hgroups]⟩

/-- An address with zero groups left out. -/
theorem readV6_shortened {front back : List Nat} {zeros : Nat}
    (hlength : front.length + zeros + back.length = 8) (hzeros : 0 < zeros)
    (hfront : ∀ g ∈ front, g < 65536) (hback : ∀ g ∈ back, g < 65536) (hrest : Closes rest) :
    readV6 ((renderGroups front).toList ++ ':' :: ':' :: ((renderGroups back).toList ++ rest)) =
      some (front ++ List.replicate zeros 0 ++ back, rest) := by
  have hcount : 8 - front.length - back.length = zeros := by omega
  have hne : front.length ≠ 8 := by omega
  rw [readV6, readGroups_render hfront (by omega) (Closes.colons _)]
  simp only [hne, if_false, Bool.false_eq_true, readChar, if_true, Option.bind_eq_bind,
    Option.bind_some, readGroups_render hback (by omega : back.length ≤ 7 - front.length) hrest,
    hcount]
  rfl

/-- An address of the fourth version inside one of the sixth. -/
theorem readV6_mapped {a b : Nat} (ha : a < 65536) (hb : b < 65536) (hrest : Closes rest) :
    readV6 ("::ffff:".toList ++
        ((renderBytes [a / 256, a % 256, b / 256, b % 256]).toList ++ rest)) =
      some ([0, 0, 0, 0, 0, 0xffff, a, b], rest) := by
  have hbytes : readBytes 4 ((renderBytes [a / 256, a % 256, b / 256, b % 256]).toList ++ rest) =
      some ([a / 256, a % 256, b / 256, b % 256], rest) := by
    refine readBytes_render ⟨rfl, ?_⟩ hrest.endsGroup.ends
    simp only [List.forall_mem_cons]
    refine ⟨?_, ?_, ?_, ?_, nofun⟩ <;> omega
  -- From here on only that the bytes are read matters, not how they are written.
  generalize (renderBytes [a / 256, a % 256, b / 256, b % 256]).toList ++ rest = cs at hbytes
  have hgroups : groupsOfBytes [a / 256, a % 256, b / 256, b % 256] = [a, b] := by
    simp [groupsOfBytes, Nat.div_add_mod]
  have hembedded : readGroups 6 false (':' :: cs) = ([a, b], true, rest) := by
    rw [readGroups]
    simp [readChar, hbytes, hgroups]
  have hback : readGroups 7 true (groupDigits 0xffff ++ ':' :: cs) =
      ([0xffff, a, b], true, rest) := by
    rw [readGroups_group (by decide) (endsGroup_colon cs) rfl, hembedded]
  have hfront : readGroups 8 true (':' :: ':' :: (groupDigits 0xffff ++ ':' :: cs)) =
      ([], false, ':' :: ':' :: (groupDigits 0xffff ++ ':' :: cs)) :=
    readGroups_closes (Closes.colons _) 8 true
  rw [show "::ffff:".toList ++ cs = ':' :: ':' :: (groupDigits 0xffff ++ ':' :: cs) from rfl,
    readV6, hfront]
  simp [readChar, hback]

/-- An address of the sixth version in front of a sign that ends it. -/
theorem readV6_render (h : (v6 groups).IsValid) (hrest : Closes rest) :
    readV6 ((v6 groups).render.toList ++ rest) = some (groups, rest) := by
  obtain ⟨hlength, hgroups⟩ := h
  unfold render
  dsimp only
  split
  · next a b =>
    rw [String.toList_append, List.append_assoc]
    exact readV6_mapped (hgroups a (by simp)) (hgroups b (by simp)) hrest
  · obtain ⟨front, back, hplace, heq⟩ := longestZeros_spec 0 groups
    generalize (longestZeros 0 groups).1 = place, (longestZeros 0 groups).2 = zeros at hplace heq ⊢
    obtain rfl : place = front.length := by omega
    split
    · next hzeros =>
      subst heq
      rw [List.length_append, List.length_append, List.length_replicate] at hlength
      have htake : (front ++ List.replicate zeros 0 ++ back).take front.length = front := by simp
      have hdrop : (front ++ List.replicate zeros 0 ++ back).drop (front.length + zeros) = back := by
        rw [List.drop_left' (by simp)]
      rw [htake, hdrop, String.toList_append, String.toList_append, List.append_assoc,
        List.append_assoc]
      exact readV6_shortened hlength (by omega)
        (fun g hg => hgroups g (by simp [hg])) (fun g hg => hgroups g (by simp [hg])) hrest
    · rw [readV6, readGroups_render hgroups (by omega) hrest]
      exact if_pos hlength

end IpAddress

namespace SocketAddress

/-- The parts of an address are in range, and only one of the sixth version has a scope. -/
def IsValid (a : SocketAddress) : Prop :=
  a.host.IsValid ∧ a.port < UInt16.size ∧ a.scope < UInt32.size ∧
    (∀ bytes, a.host = .v4 bytes → a.scope = 0)

variable {bound n port : Nat} {cs rest : List Char}

theorem lt_of_readBelow (h : readBelow bound cs = some (n, rest)) : n < bound := by
  obtain ⟨⟨_, m, rest'⟩, -, h⟩ := Option.bind_eq_some_iff.1 h
  dsimp only at h
  split at h
  · next hlt =>
    cases h
    exact hlt
  · cases h

theorem readBelow_toDigits (hn : n < bound) (hrest : IpAddress.Ends rest) :
    readBelow bound (Nat.toDigits 10 n ++ rest) = some (n, rest) := by
  have hlimit : (Nat.toDigits 10 n).length ≤ (Nat.toDigits 10 n ++ rest).length := by simp
  rw [readBelow, IpAddress.readDigits_toDigits (by decide) (by decide) hlimit hrest]
  exact if_pos hn

theorem lt_of_readPort (h : readPort cs = some port) : port < UInt16.size := by
  obtain ⟨cs', -, h⟩ := Option.bind_eq_some_iff.1 h
  obtain ⟨⟨n, rest⟩, hn, h⟩ := Option.bind_eq_some_iff.1 h
  cases rest with
  | nil =>
    cases h
    exact lt_of_readBelow hn
  | cons c rest => cases h

theorem readPort_toDigits (hport : port < UInt16.size) :
    readPort (':' :: Nat.toDigits 10 port) = some port := by
  have hread := readBelow_toDigits hport (nofun : IpAddress.Ends [])
  rw [List.append_nil] at hread
  simp [readPort, IpAddress.readChar, hread]

theorem readScope_lt (cs : List Char) : (readScope cs).1 < UInt32.size := by
  rw [readScope]
  cases h : (IpAddress.readChar '%' cs).bind (readBelow UInt32.size) with
  | none => exact (by decide : 0 < UInt32.size)
  | some found =>
    obtain ⟨_, -, hread⟩ := Option.bind_eq_some_iff.1 h
    exact lt_of_readBelow hread

/-- An address that is read is valid. -/
theorem isValid_of_read {s : String} {a : SocketAddress} (h : read s = some a) : a.IsValid := by
  rw [read] at h
  split at h
  · obtain ⟨⟨groups, rest⟩, hgroups, h⟩ := Option.bind_eq_some_iff.1 h
    obtain ⟨rest', -, h⟩ := Option.bind_eq_some_iff.1 h
    obtain ⟨port, hport, h⟩ := Option.bind_eq_some_iff.1 h
    cases h
    exact ⟨IpAddress.isValid_of_readV6 hgroups, lt_of_readPort hport, readScope_lt rest, nofun⟩
  · obtain ⟨⟨bytes, rest⟩, hbytes, h⟩ := Option.bind_eq_some_iff.1 h
    obtain ⟨port, hport, h⟩ := Option.bind_eq_some_iff.1 h
    cases h
    exact ⟨IpAddress.readBytes_valid hbytes, lt_of_readPort hport,
      (by decide : 0 < UInt32.size), fun _ _ => rfl⟩

/-- How a scope is written; without a sign it is zero. -/
def scopeText (scope : Nat) : List Char :=
  if scope = 0 then [] else '%' :: Nat.toDigits 10 scope

/-- The scope of an address, in front of the bracket that ends it. -/
theorem readScope_scopeText {scope : Nat} (hscope : scope < UInt32.size) (rest : List Char) :
    readScope (scopeText scope ++ ']' :: rest) = (scope, ']' :: rest) := by
  rw [scopeText]
  split
  · next hzero =>
    subst hzero
    rfl
  · have hend : IpAddress.Ends (']' :: rest) := fun c hc => Option.some.inj hc ▸ rfl
    have hread := readBelow_toDigits hscope hend
    simp [readScope, IpAddress.readChar, hread]

theorem closes_scopeText (scope : Nat) (rest : List Char) :
    IpAddress.Closes (scopeText scope ++ ']' :: rest) := by
  rw [scopeText]
  split
  · exact .bracket _
  · exact .scope _

theorem toList_render_v4 (bytes : List Nat) (port scope : Nat) :
    (render ⟨.v4 bytes, port, scope⟩).toList =
      (IpAddress.renderBytes bytes).toList ++ ':' :: Nat.toDigits 10 port := by
  simp [render, IpAddress.render]

theorem toList_render_v6 (groups : List Nat) (port scope : Nat) :
    (render ⟨.v6 groups, port, scope⟩).toList =
      '[' :: ((IpAddress.v6 groups).render.toList ++
        (scopeText scope ++ ']' :: ':' :: Nat.toDigits 10 port)) := by
  by_cases hzero : scope = 0 <;> simp [render, scopeText, hzero]

/-- A valid address is read from its text. -/
theorem read_render {a : SocketAddress} (h : a.IsValid) : read a.render = some a := by
  obtain ⟨host, port, scope⟩ := a
  obtain ⟨hhost, hport, hscope, hnoScope⟩ := h
  cases host with
  | v4 bytes =>
    obtain rfl : scope = 0 := hnoScope bytes rfl
    have hread : IpAddress.readBytes 4 (render ⟨.v4 bytes, port, 0⟩).toList =
        some (bytes, ':' :: Nat.toDigits 10 port) := by
      rw [toList_render_v4]
      exact IpAddress.readBytes_render hhost fun c hc => Option.some.inj hc ▸ rfl
    rw [read]
    split
    · next cs hcs =>
      -- no byte begins with a bracket
      have hnone : IpAddress.readBytes 4 ('[' :: cs) = none :=
        IpAddress.readBytes_eq_none fun c (hc : some '[' = some c) =>
          Option.some.inj hc ▸ by decide
      rw [hcs, hnone] at hread
      cases hread
    · simp [hread, readPort_toDigits hport]
  | v6 groups =>
    have hgroups := IpAddress.readV6_render hhost
      (closes_scopeText scope (':' :: Nat.toDigits 10 port))
    rw [read, toList_render_v6]
    simp [readBracketed, hgroups, readScope_scopeText hscope, IpAddress.readChar,
      readPort_toDigits hport]

end SocketAddress

end TrafficGateway
