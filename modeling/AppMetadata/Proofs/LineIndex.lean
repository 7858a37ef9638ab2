import Mathlib.Data.List.DropRight
import AppMetadata.Source.Location

/-!
# `AppMetadata.Proofs.LineIndex`: places are exact

A text is stored as bytes, and a place counts bytes, while the index of a text
is made by reading its characters. The two agree since the byte of a line feed
is part of no other character (`startsAfter_eq`). So the index lists zero and
the offsets after the line feeds in increasing order, and the line of an offset
is the number of entries at or below it, which halving finds
(`splits_countUpTo`).

Places are counted in 32 bits. A text of fewer than `UInt32.size` bytes has no
offset that needs more, but lines and columns count from one, so one of them
may need more at the end of the longest texts (`Outgrows`).

* `location_eq`: the place of an offset is the place after the bytes before
  it, in 32 bits.
* `Finds.entry`: any search of the table leads to the same entry, by an exact
  hit or by the place where the offset would stand.
* `location_exact`: lines and columns count the bytes before an offset exactly
  if they have room, and a later offset has a later place.
* `location_longLine_end`: one line that is as long as a text can be has no
  place for its end.
-/

set_option autoImplicit false

namespace AppMetadata

namespace Location

/-- Whether a place comes before another in its text. -/
def Before (place other : Location) : Prop :=
  place.line < other.line ∨ place.line = other.line ∧ place.column < other.column

variable {a b c : Location}

/-- The order of places is transitive, since that of lines and columns is. -/
theorem Before.trans (hab : a.Before b) (hbc : b.Before c) : a.Before c := by
  unfold Before at *
  omega

/-- A place does not come before itself. -/
theorem Before.ne (h : a.Before b) : a ≠ b := by
  rintro rfl
  unfold Before at h
  omega

/-- A place as it is kept in 32 bits. -/
def wrapped (place : Location) : Location where
  line := place.line % UInt32.size
  column := place.column % UInt32.size

/-- Whether a line and a column are counted from one, up to the first number
that has no room in 32 bits. -/
structure Numbered (place : Location) : Prop where
  line : 1 ≤ place.line ∧ place.line ≤ UInt32.size
  column : 1 ≤ place.column ∧ place.column ≤ UInt32.size

/-- Such a place stays what it is in 32 bits unless its line or its column is
that number. -/
theorem Numbered.wrapped_eq_iff (h : a.Numbered) :
    a.wrapped = a ↔ ¬(a.line = UInt32.size ∨ a.column = UInt32.size) := by
  obtain ⟨line, column⟩ := a
  obtain ⟨⟨-, hline⟩, -, hcolumn⟩ := h
  have hpos : UInt32.size ≠ 0 := by decide
  rw [wrapped, Location.mk.injEq, Nat.mod_eq_iff_lt hpos, Nat.mod_eq_iff_lt hpos]
  dsimp only at *
  omega

/-- Places stay apart in 32 bits: only the first number without room becomes
zero, which no line or column has. -/
theorem Numbered.eq_of_wrapped_eq (ha : a.Numbered) (hb : b.Numbered)
    (h : a.wrapped = b.wrapped) : a = b := by
  have hnumber {m n : Nat} (hm : 1 ≤ m ∧ m ≤ UInt32.size) (hn : 1 ≤ n ∧ n ≤ UInt32.size)
      (heq : m % UInt32.size = n % UInt32.size) : m = n := by
    have hsize : UInt32.size = 4294967296 := rfl
    rw [hsize] at hm hn heq
    omega
  obtain ⟨hline, hcolumn⟩ := Location.mk.inj h
  obtain ⟨line, column⟩ := a
  obtain ⟨line', column'⟩ := b
  rw [Location.mk.injEq]
  exact ⟨hnumber ha.line hb.line hline, hnumber ha.column hb.column hcolumn⟩

end Location

namespace LineIndex

/-- The byte of a line feed. -/
def lineFeed : UInt8 := 10

/-! ### Bytes and characters -/

/-- The bytes of a text. -/
def bytesOf (text : String) : List UInt8 :=
  text.toUTF8.data.toList

/-- The length in bytes that the core library gives is that of the list. -/
theorem length_bytesOf (text : String) : (bytesOf text).length = text.utf8ByteSize := by
  rw [bytesOf, Array.length_toList]
  rfl

/-- The bytes of a text are those of its characters in a row. -/
theorem bytesOf_eq_flatMap (text : String) :
    bytesOf text = text.toList.flatMap String.utf8EncodeChar := by
  rw [bytesOf, ← String.ofList_toList (s := text), String.toUTF8_eq_toByteArray,
    String.toByteArray_ofList, String.toList_ofList]
  exact List.toList_data_toByteArray

/-- The offsets after the line feeds of `bytes`, of which the first is at
`offset`. -/
def feedsAfter (offset : Nat) : List UInt8 → List Nat
  | [] => []
  | byte :: bytes =>
    if byte = lineFeed then (offset + 1) :: feedsAfter (offset + 1) bytes
    else feedsAfter (offset + 1) bytes

/-- The line feeds of two pieces of a text, where the second piece starts at
the end of the first one. -/
theorem feedsAfter_append (offset : Nat) (front back : List UInt8) :
    feedsAfter offset (front ++ back) =
      feedsAfter offset front ++ feedsAfter (offset + front.length) back := by
  induction front generalizing offset with
  | nil => rfl
  | cons byte front ih =>
    have hlength : offset + (byte :: front).length = offset + 1 + front.length := by
      rw [List.length_cons]
      omega
    rw [List.cons_append, feedsAfter, feedsAfter, hlength, ih]
    split <;> rfl

/-- Without a line feed no line starts. -/
theorem feedsAfter_eq_nil {offset : Nat} {bytes : List UInt8}
    (h : ∀ byte ∈ bytes, byte ≠ lineFeed) : feedsAfter offset bytes = [] := by
  induction bytes generalizing offset with
  | nil => rfl
  | cons byte bytes ih =>
    obtain ⟨hbyte, hbytes⟩ := List.forall_mem_cons.mp h
    rw [feedsAfter, if_neg hbyte, ih hbytes]

/-- A byte with a mark in its highest bit is no line feed. -/
theorem or_ne_lineFeed {mark : UInt8} (h : 128 ≤ mark.toNat) (byte : UInt8) :
    byte ||| mark ≠ lineFeed := by
  intro heq
  have hle : mark.toNat ≤ (byte ||| mark).toNat := by
    rw [UInt8.toNat_or]
    exact Nat.right_le_or
  have hfeed : (byte ||| mark).toNat = 10 := congrArg UInt8.toNat heq
  omega

/-- The byte of a line feed is part of no other character. -/
theorem ne_lineFeed_of_mem {c : Char} (hc : c ≠ '\n') {byte : UInt8}
    (h : byte ∈ String.utf8EncodeChar c) : byte ≠ lineFeed := by
  rcases Char.utf8Size_eq c with hsize | hsize | hsize | hsize
  · rw [String.utf8EncodeChar_eq_singleton hsize, List.mem_singleton] at h
    subst h
    intro heq
    have hlow : c.val.toNat ≤ 127 := UInt32.le_iff_toNat_le.mp (Char.utf8Size_eq_one_iff.mp hsize)
    have hval : c.val.toNat % 256 = 10 := by
      rw [← UInt32.toNat_toUInt8]
      exact congrArg UInt8.toNat heq
    have hten : c.toNat = 10 := by
      show c.val.toNat = 10
      omega
    exact hc (by rw [← Char.ofNat_toNat c, hten])
  -- Every byte of a longer character has such a mark.
  · rw [String.utf8EncodeChar_eq_cons_cons hsize] at h
    simp only [List.mem_cons, List.not_mem_nil, or_false] at h
    rcases h with rfl | rfl <;> exact or_ne_lineFeed (by decide) _
  · rw [String.utf8EncodeChar_eq_cons_cons_cons hsize] at h
    simp only [List.mem_cons, List.not_mem_nil, or_false] at h
    rcases h with rfl | rfl | rfl <;> exact or_ne_lineFeed (by decide) _
  · rw [String.utf8EncodeChar_eq_cons_cons_cons_cons hsize] at h
    simp only [List.mem_cons, List.not_mem_nil, or_false] at h
    rcases h with rfl | rfl | rfl | rfl <;> exact or_ne_lineFeed (by decide) _

/-- Reading characters finds the line feeds that are among the bytes. -/
theorem startsAfter_eq (offset : Nat) (cs : List Char) :
    startsAfter offset cs = feedsAfter offset (cs.flatMap String.utf8EncodeChar) := by
  induction cs generalizing offset with
  | nil => rfl
  | cons c cs ih =>
    rw [List.flatMap_cons, feedsAfter_append, String.length_utf8EncodeChar, ← ih]
    by_cases hc : c = '\n'
    · subst hc
      rfl
    · have hnone : feedsAfter offset (String.utf8EncodeChar c) = [] :=
        feedsAfter_eq_nil fun byte hbyte => ne_lineFeed_of_mem hc hbyte
      simp [startsAfter, hc, hnone]

/-! ### The table -/

variable {offset : Nat} {bytes : List UInt8}

/-- Each line feed starts one line. -/
theorem length_feedsAfter : (feedsAfter offset bytes).length = bytes.count lineFeed := by
  induction bytes generalizing offset with
  | nil => rfl
  | cons byte bytes ih =>
    rw [feedsAfter, List.count_cons]
    by_cases hbyte : byte = lineFeed
    · simp [hbyte, ih]
    · simp [hbyte, ih]

/-- A line starts after a byte of the text, so not before its second byte, and
at its end at the latest. -/
theorem bounds_of_mem_feedsAfter {start : Nat} (h : start ∈ feedsAfter offset bytes) :
    offset < start ∧ start ≤ offset + bytes.length := by
  induction bytes generalizing offset with
  | nil => exact absurd h List.not_mem_nil
  | cons byte bytes ih =>
    rw [List.length_cons]
    rw [feedsAfter] at h
    split at h
    · rcases List.mem_cons.mp h with rfl | h
      · omega
      · have := ih h
        omega
    · have := ih h
      omega

/-- The starts are found from left to right. -/
theorem pairwise_feedsAfter : (feedsAfter offset bytes).Pairwise (· < ·) := by
  induction bytes generalizing offset with
  | nil => exact .nil
  | cons byte bytes ih =>
    rw [feedsAfter]
    split
    · exact .cons (fun start h => (bounds_of_mem_feedsAfter h).1) ih
    · exact ih

/-- In a text of fewer than `UInt32.size` bytes no entry of the table loses a
bit. -/
theorem map_toNat_starts {text : String} (hsize : text.utf8ByteSize < UInt32.size) :
    (ofText text).starts.toList.map UInt32.toNat = 0 :: feedsAfter 0 (bytesOf text) := by
  have htable : (ofText text).starts.toList =
      (0 :: feedsAfter 0 (bytesOf text)).map Nat.toUInt32 := by
    rw [bytesOf_eq_flatMap, ← startsAfter_eq]
    rfl
  rw [htable, List.map_map]
  refine (List.map_congr_left fun start hstart => ?_).trans (List.map_id _)
  refine UInt32.toNat_ofNat_of_lt' (Nat.lt_of_le_of_lt ?_ hsize)
  rcases List.mem_cons.mp hstart with rfl | hstart
  · exact Nat.zero_le _
  · have hle := (bounds_of_mem_feedsAfter hstart).2
    rwa [length_bytesOf, Nat.zero_add] at hle

/-! ### The search -/

/-- The first `count` entries are at or below `offset`, and the others above
it. -/
structure Splits (starts : Array UInt32) (offset : UInt32) (count : Nat) : Prop where
  le_size : count ≤ starts.size
  below : ∀ i < count, starts.getD i 0 ≤ offset
  above : ∀ i, count ≤ i → i < starts.size → offset < starts.getD i 0

/-- An array whose entries increase. -/
def Increasing (starts : Array UInt32) : Prop :=
  ∀ i j, i < j → j < starts.size → starts.getD i 0 < starts.getD j 0

section
variable {starts : Array UInt32} {offset : UInt32}

/-- There is one such number. -/
theorem Splits.unique {count other : Nat} (h : Splits starts offset count)
    (hother : Splits starts offset other) : count = other := by
  have hle {a b : Nat} (ha : Splits starts offset a) (hb : Splits starts offset b) : a ≤ b := by
    by_contra hlt
    have habove := hb.above b (Nat.le_refl b) (by have := ha.le_size; omega)
    have hbelow := ha.below b (by omega)
    exact UInt32.lt_irrefl _ (UInt32.lt_of_lt_of_le habove hbelow)
  exact Nat.le_antisymm (hle h hother) (hle hother h)

/-- An entry as a number. -/
theorem toNat_getD {entries : List Nat} (heq : starts.toList.map UInt32.toNat = entries) (i : Nat) :
    (starts.getD i 0).toNat = entries[i]?.getD 0 := by
  rw [Array.getD_eq_getD_getElem?, ← Array.getElem?_toList, ← heq, List.getElem?_map]
  cases starts.toList[i]? <;> rfl

/-- A table that consists of a part at or below the offset and a part above it
is split between the two. -/
theorem splits_of_append {low high : List Nat} (heq : starts.toList.map UInt32.toNat = low ++ high)
    (hlow : ∀ start ∈ low, start ≤ offset.toNat) (hhigh : ∀ start ∈ high, offset.toNat < start) :
    Splits starts offset low.length := by
  have hentry := toNat_getD heq
  have hsize : starts.size = low.length + high.length := by
    rw [← Array.length_toList, ← List.length_map UInt32.toNat, heq, List.length_append]
  refine ⟨by omega, fun i hi => UInt32.le_iff_toNat_le.mpr ?_,
    fun i hi hi' => UInt32.lt_iff_toNat_lt.mpr ?_⟩
  · rw [hentry, List.getElem?_append_left hi, List.getElem?_eq_getElem hi]
    exact hlow _ (List.getElem_mem hi)
  · rw [hentry, List.getElem?_append_right hi, List.getElem?_eq_getElem (by omega)]
    exact hhigh _ (List.getElem_mem _)

/-- The entries increase if the numbers that they stand for do. -/
theorem increasing_of_pairwise {entries : List Nat}
    (heq : starts.toList.map UInt32.toNat = entries) (h : entries.Pairwise (· < ·)) :
    Increasing starts := by
  intro i j hij hj
  have hlength : entries.length = starts.size := by
    rw [← heq, List.length_map, Array.length_toList]
  have hi : i < entries.length := by omega
  have hj : j < entries.length := by omega
  rw [UInt32.lt_iff_toNat_lt, toNat_getD heq, toNat_getD heq, List.getElem?_eq_getElem hi,
    List.getElem?_eq_getElem hj]
  exact List.pairwise_iff_getElem.mp h i j hi hj hij

/-- Halving keeps what lies below the range at or below `offset`, and what
lies above it above. -/
theorem splits_countUpTo {low high : Nat} (hstarts : Increasing starts)
    (hle : low ≤ high) (hhigh : high ≤ starts.size)
    (hbelow : ∀ i < low, starts.getD i 0 ≤ offset)
    (habove : ∀ i, high ≤ i → i < starts.size → offset < starts.getD i 0) :
    Splits starts offset (countUpTo starts offset low high) := by
  fun_induction countUpTo starts offset low high with
  | case1 low high hlt middle hmiddle ih =>
    have hbound : middle < high := by omega
    -- The middle entry is not above the offset, so neither are the ones before it.
    refine ih (by omega) hhigh (fun i hi => ?_) habove
    rcases Nat.lt_succ_iff_lt_or_eq.mp hi with hi | rfl
    · have hlower := hstarts i middle hi (by omega)
      exact UInt32.le_of_lt (UInt32.lt_of_lt_of_le hlower hmiddle)
    · exact hmiddle
  | case2 low high hlt middle hmiddle ih =>
    have hbound : middle < high := by omega
    have hmiddle := UInt32.not_le.mp hmiddle
    -- It is above the offset, and so are the ones behind it.
    refine ih (by omega) (by omega) hbelow (fun i hi hsize => ?_)
    rcases Nat.lt_or_eq_of_le hi with hi | rfl
    · exact UInt32.lt_trans hmiddle (hstarts middle i hi hsize)
    · exact hmiddle
  | case3 low high hlt =>
    have heq : low = high := by omega
    exact ⟨by omega, hbelow, fun i hi hsize => habove i (by omega) hsize⟩

/-- The whole table is searched, so nothing is asked of its entries before. -/
theorem splits_line (h : Increasing starts) :
    Splits starts offset (countUpTo starts offset 0 starts.size) :=
  splits_countUpTo h (Nat.zero_le _) (Nat.le_refl _) nofun fun i hi hsize => by omega

/-- What a search for `offset` may answer: the index of an entry that is
equal to it, or if there is none the index at which it would stand. -/
inductive Finds (starts : Array UInt32) (offset : UInt32) : Except Nat Nat → Prop
  | hit (i : Nat) (hi : i < starts.size) (heq : starts.getD i 0 = offset) :
      Finds starts offset (.ok i)
  | miss (i : Nat) (hi : i ≤ starts.size) (hbelow : ∀ j < i, starts.getD j 0 < offset)
      (habove : ∀ j, i ≤ j → j < starts.size → offset < starts.getD j 0) :
      Finds starts offset (.error i)

/-- The entry that counts for an answer: the one that was found, or the one
before the place where it would stand. -/
def entryOf : Except Nat Nat → Nat
  | .ok i => i
  | .error i => i - 1

/-- Whatever a search answers, the entry that counts is the last one at or
below the offset. An exact hit is this entry itself, as no entry is there
twice. -/
theorem Finds.splits {answer : Except Nat Nat} (hstarts : Increasing starts)
    (hfirst : starts[0]? = some 0) (h : Finds starts offset answer) :
    Splits starts offset (entryOf answer + 1) := by
  cases h with
  | hit i hi heq =>
    subst heq
    refine ⟨hi, fun j hj => ?_, fun j hj hsize => hstarts i j hj hsize⟩
    rcases Nat.lt_or_eq_of_le (Nat.le_of_lt_succ hj) with hj | rfl
    · exact UInt32.le_of_lt (hstarts j i hj hi)
    · exact UInt32.le_refl _
  | miss i hi hbelow habove =>
    -- The first entry is at or below every offset, so it would stand behind it.
    have hpos : 0 < i := by
      by_contra hzero
      have hsize : 0 < starts.size := (Array.getElem?_eq_some_iff.mp hfirst).1
      have hlow := habove 0 (by omega) hsize
      rw [Array.getD_eq_getD_getElem?, hfirst, UInt32.lt_iff_toNat_lt] at hlow
      exact Nat.not_lt_zero _ hlow
    have hentry : entryOf (.error i) + 1 = i := Nat.sub_add_cancel hpos
    rw [hentry]
    exact ⟨hi, fun j hj => UInt32.le_of_lt (hbelow j hj), habove⟩

/-- A search has an answer. -/
theorem exists_finds (h : Increasing starts) : ∃ answer, Finds starts offset answer := by
  obtain ⟨hsize, hbelow, habove⟩ : Splits starts offset (countUpTo starts offset 0 starts.size) :=
    splits_line h
  generalize countUpTo starts offset 0 starts.size = line at hsize hbelow habove
  -- Only the last entry that is not above the offset can be equal to it.
  by_cases hhit : 0 < line ∧ starts.getD (line - 1) 0 = offset
  · exact ⟨.ok (line - 1), .hit _ (by omega) hhit.2⟩
  · refine ⟨.error line, .miss line hsize (fun i hi => ?_) habove⟩
    rcases Nat.lt_or_eq_of_le (Nat.le_sub_one_of_lt hi) with hi' | rfl
    · exact UInt32.lt_of_lt_of_le (h i (line - 1) hi' (by omega)) (hbelow (line - 1) (by omega))
    · refine UInt32.lt_of_le_of_ne (hbelow _ hi) fun heq => hhit ⟨by omega, heq⟩

end

/-! ### Places -/

/-- From the last start of a line on there is no line feed. -/
theorem getLastD_feedsAfter (bytes : List UInt8) :
    (feedsAfter 0 bytes).getLastD 0 + (bytes.rtakeWhile (· != lineFeed)).length =
      bytes.length := by
  induction bytes using List.reverseRecOn with
  | nil => rfl
  | append_singleton bytes byte ih =>
    rw [feedsAfter_append, Nat.zero_add]
    by_cases hbyte : byte = lineFeed
    · have hlast : feedsAfter bytes.length [byte] = [bytes.length + 1] := if_pos hbyte
      rw [hlast, List.getLastD_concat, List.rtakeWhile_concat_neg _ _ _ (by simp [hbyte]),
        List.length_append]
      rfl
    · have hlast : feedsAfter bytes.length [byte] = [] := if_neg hbyte
      rw [hlast, List.append_nil, List.rtakeWhile_concat_pos _ _ _ (by simp [hbyte]),
        List.length_append, List.length_append, ← ih, Nat.add_assoc]

/-- The place after `bytes`. -/
def placeAfter (bytes : List UInt8) : Location where
  line := 1 + bytes.count lineFeed
  column := 1 + (bytes.rtakeWhile (· != lineFeed)).length

/-- Each byte adds one line at most, and all do exactly if they are line
feeds. -/
theorem line_placeAfter (bytes : List UInt8) :
    (placeAfter bytes).line ≤ bytes.length + 1 ∧
      ((placeAfter bytes).line = bytes.length + 1 ↔ ∀ byte ∈ bytes, byte = lineFeed) := by
  have hline : (placeAfter bytes).line = bytes.count lineFeed + 1 := Nat.add_comm ..
  rw [hline, Nat.add_le_add_iff_right, Nat.add_right_cancel_iff, List.count_eq_length]
  exact ⟨List.count_le_length, forall₂_congr fun _ _ => eq_comm⟩

/-- Each byte adds one column at most, and all do exactly if none is a line
feed. -/
theorem column_placeAfter (bytes : List UInt8) :
    (placeAfter bytes).column ≤ bytes.length + 1 ∧
      ((placeAfter bytes).column = bytes.length + 1 ↔ ∀ byte ∈ bytes, byte ≠ lineFeed) := by
  have hcolumn : (placeAfter bytes).column =
      (bytes.rtakeWhile (· != lineFeed)).length + 1 := Nat.add_comm ..
  have hsuffix := List.rtakeWhile_suffix (· != lineFeed) bytes
  have hself : (bytes.rtakeWhile (· != lineFeed)).length = bytes.length ↔
      bytes.rtakeWhile (· != lineFeed) = bytes :=
    ⟨hsuffix.eq_of_length, congrArg List.length⟩
  rw [hcolumn, Nat.add_le_add_iff_right, Nat.add_right_cancel_iff, hself,
    List.rtakeWhile_eq_self_iff]
  exact ⟨hsuffix.length_le, forall₂_congr fun _ _ => bne_iff_ne⟩

/-- One byte more leads to a later place. -/
theorem placeAfter_concat (bytes : List UInt8) (byte : UInt8) :
    (placeAfter bytes).Before (placeAfter (bytes ++ [byte])) := by
  unfold placeAfter Location.Before
  rw [List.count_append]
  by_cases hbyte : byte = lineFeed
  · left
    simp [hbyte]
  · right
    rw [List.rtakeWhile_concat_pos _ _ _ (by simp [hbyte]), List.length_append]
    simp [hbyte]

/-- More bytes lead to a later place. -/
theorem placeAfter_before (bytes : List UInt8) {more : List UInt8} (h : more ≠ []) :
    (placeAfter bytes).Before (placeAfter (bytes ++ more)) := by
  -- On the bytes that are added: the last one comes after a place that is later or the same.
  induction more using List.reverseRecOn with
  | nil => exact absurd rfl h
  | append_singleton more byte ih =>
    rw [← List.append_assoc]
    have hlast := placeAfter_concat (bytes ++ more) byte
    rcases List.eq_nil_or_concat more with rfl | ⟨_, _, hmore⟩
    · rwa [List.append_nil] at hlast ⊢
    · exact (ih (by simp [hmore])).trans hlast

/-- The offset at which the line of `offset` starts. -/
def lineStart (text : String) (offset : Nat) : Nat :=
  (feedsAfter 0 ((bytesOf text).take offset)).getLastD 0

section
variable {text : String} {offset : Nat} (h : offset ≤ text.utf8ByteSize)
include h

/-- An offset has as many bytes before it. -/
theorem length_front : ((bytesOf text).take offset).length = offset := by
  rw [List.length_take, length_bytesOf]
  omega

/-- The starts of lines up to an offset, and those after it. -/
theorem feedsAfter_front : 0 :: feedsAfter 0 (bytesOf text) =
    (0 :: feedsAfter 0 ((bytesOf text).take offset)) ++
      feedsAfter offset ((bytesOf text).drop offset) := by
  conv_lhs => rw [← List.take_append_drop offset (bytesOf text)]
  rw [feedsAfter_append, length_front h, Nat.zero_add, List.cons_append]

/-- The column counts from the start of the line. -/
theorem lineStart_add :
    lineStart text offset + (((bytesOf text).take offset).rtakeWhile (· != lineFeed)).length =
      offset := by
  rw [lineStart, getLastD_feedsAfter, length_front h]

/-- Lines and columns count from one, up to the length of the longest text. -/
theorem bounds_placeAfter (hsize : text.utf8ByteSize < UInt32.size) :
    (placeAfter ((bytesOf text).take offset)).Numbered := by
  have hfront := length_front h
  have hline := (line_placeAfter ((bytesOf text).take offset)).1
  have hcolumn := (column_placeAfter ((bytesOf text).take offset)).1
  exact ⟨⟨Nat.le_add_right .., by omega⟩, ⟨Nat.le_add_right .., by omega⟩⟩

end

section
variable {text : String} (hsize : text.utf8ByteSize < UInt32.size)
include hsize

/-- The table of a text increases from zero on: no two lines start at one byte. -/
theorem increasing_starts : Increasing (ofText text).starts :=
  increasing_of_pairwise (map_toNat_starts hsize)
    (.cons (fun _ hstart => (bounds_of_mem_feedsAfter hstart).1) pairwise_feedsAfter)

variable {offset : UInt32} (h : offset.toNat ≤ text.utf8ByteSize)
include h

/-- The number of entries at or below an offset is that of the line feeds
before it and one more, for the first line. -/
theorem splits_front : Splits (ofText text).starts offset
    (((bytesOf text).take offset.toNat).count lineFeed + 1) := by
  have hfront := length_front h
  have hlow : ∀ start ∈ 0 :: feedsAfter 0 ((bytesOf text).take offset.toNat),
      start ≤ offset.toNat := by
    intro start hstart
    rcases List.mem_cons.mp hstart with rfl | hstart
    · exact Nat.zero_le _
    · have := (bounds_of_mem_feedsAfter hstart).2
      omega
  have htable := (map_toNat_starts hsize).trans (feedsAfter_front h)
  have hsplits := splits_of_append htable hlow
    fun start hstart => (bounds_of_mem_feedsAfter hstart).1
  rwa [List.length_cons, length_feedsAfter] at hsplits

/-- The entry with the number of these line feeds is where the line starts. -/
theorem lineStart_entry : ∃ start,
    (ofText text).starts[((bytesOf text).take offset.toNat).count lineFeed]? = some start ∧
      start.toNat = lineStart text offset.toNat := by
  have hcount : (feedsAfter 0 ((bytesOf text).take offset.toNat)).length =
      ((bytesOf text).take offset.toNat).count lineFeed := length_feedsAfter
  rw [← Option.map_eq_some_iff, ← Array.getElem?_toList, ← List.getElem?_map,
    map_toNat_starts hsize, feedsAfter_front h, ← hcount, List.getElem?_append_left (by simp),
    lineStart]
  cases hfeeds : feedsAfter 0 ((bytesOf text).take offset.toNat) using List.reverseRecOn with
  | nil => rfl
  | append_singleton feeds last => simp

/-- A search leads to the entry of the line, and lines and columns are those of
the entry. -/
theorem location_entry : ∃ start,
    (ofText text).starts[((bytesOf text).take offset.toNat).count lineFeed]? = some start ∧
      start.toNat = lineStart text offset.toNat ∧
      (ofText text).location offset =
        { line := ((((bytesOf text).take offset.toNat).count lineFeed).toUInt32 + 1).toNat
          column := (offset - start + 1).toNat } := by
  obtain ⟨start, hentry, hstart⟩ := lineStart_entry hsize h
  have hline := (splits_line (increasing_starts hsize)).unique (splits_front hsize h)
  refine ⟨start, hentry, hstart, ?_⟩
  simp only [location, hline, Nat.add_sub_cancel, Array.getD_eq_getD_getElem?, hentry,
    Option.getD_some]

/-- The place of an offset is the place after the bytes before it, in 32
bits. -/
theorem location_eq : (ofText text).location offset =
    (placeAfter ((bytesOf text).take offset.toNat)).wrapped := by
  obtain ⟨start, -, hstart, hlocation⟩ := location_entry hsize h
  have hsum := lineStart_add h
  have hle : start ≤ offset := UInt32.le_iff_toNat_le.mpr (by omega)
  rw [hlocation, placeAfter, Location.wrapped, Location.mk.injEq]
  constructor
  · rw [UInt32.toNat_add, Nat.add_comm 1]
    exact Nat.mod_add_mod _ _ _
  · rw [UInt32.toNat_add, UInt32.toNat_sub_of_le _ _ hle]
    show (offset.toNat - start.toNat + 1) % UInt32.size = (1 + _) % UInt32.size
    congr 1
    omega

end

/-- A later offset has more bytes before it, and so a later place. -/
theorem placeAfter_take_before {text : String} {i j : Nat} (hij : i < j)
    (hj : j ≤ text.utf8ByteSize) :
    (placeAfter ((bytesOf text).take i)).Before (placeAfter ((bytesOf text).take j)) := by
  obtain ⟨k, rfl⟩ := Nat.exists_eq_add_of_lt hij
  have hmore : ((bytesOf text).drop i).take (k + 1) ≠ [] := by
    rw [← List.length_pos_iff, List.length_take, List.length_drop, length_bytesOf]
    omega
  rw [Nat.add_assoc, List.take_add]
  exact placeAfter_before _ hmore

/-! ### The end of the longest texts -/

/-- Where the line or the column is `UInt32.size`: at the end of a text of one
byte less, if these bytes are all line feeds or none of them is. -/
def Outgrows (text : String) (offset : UInt32) : Prop :=
  offset.toNat + 1 = UInt32.size ∧
    ((∀ byte ∈ bytesOf text, byte = lineFeed) ∨ ∀ byte ∈ bytesOf text, byte ≠ lineFeed)

/-- A place that is counted in full stays what it is in 32 bits, unless it is
the end of such a text. -/
theorem wrapped_eq_iff {text : String} (hsize : text.utf8ByteSize < UInt32.size)
    {offset : UInt32} (h : offset.toNat ≤ text.utf8ByteSize) :
    (placeAfter ((bytesOf text).take offset.toNat)).wrapped =
        placeAfter ((bytesOf text).take offset.toNat) ↔ ¬Outgrows text offset := by
  rw [(bounds_placeAfter h hsize).wrapped_eq_iff, not_iff_not]
  -- A count of `UInt32.size` leaves no room for other bytes, so there are as many as can be.
  have hlast {count : Nat} (hle : count ≤ ((bytesOf text).take offset.toNat).length + 1) :
      count = UInt32.size ↔
        offset.toNat + 1 = UInt32.size ∧
          count = ((bytesOf text).take offset.toNat).length + 1 := by
    rw [length_front h] at hle ⊢
    omega
  rw [hlast (line_placeAfter _).1, hlast (column_placeAfter _).1, (line_placeAfter _).2,
    (column_placeAfter _).2, ← and_or_left, Outgrows]
  refine and_congr_right fun hend => ?_
  have hwhole : (bytesOf text).take offset.toNat = bytesOf text :=
    List.take_of_length_le (by rw [length_bytesOf]; omega)
  rw [hwhole]

/-! ### Exactness -/

/-- What a search answers leads to the entry of the line, which is at or below
the offset. -/
theorem Finds.entry {text : String} {offset : UInt32} {answer : Except Nat Nat}
    (hsize : text.utf8ByteSize < UInt32.size) (h : offset.toNat ≤ text.utf8ByteSize)
    (hfinds : Finds (ofText text).starts offset answer) :
    ∃ start, (ofText text).starts[entryOf answer]? = some start ∧ start ≤ offset ∧
      (ofText text).location offset =
        { line := ((entryOf answer).toUInt32 + 1).toNat, column := (offset - start + 1).toNat } := by
  have hfirst : (ofText text).starts[0]? = some 0 := rfl
  have hsplits := hfinds.splits (increasing_starts hsize) hfirst
  have hcount : entryOf answer = ((bytesOf text).take offset.toNat).count lineFeed :=
    Nat.succ.inj (hsplits.unique (splits_front hsize h))
  obtain ⟨start, hentry, hstart, hlocation⟩ := location_entry hsize h
  have hsum := lineStart_add h
  exact ⟨start, hcount ▸ hentry, UInt32.le_iff_toNat_le.mpr (by omega), hcount ▸ hlocation⟩

/-- The places of a text of fewer than `UInt32.size` bytes, of all its offsets
up to the end.

The table lists zero and the offsets after the line feeds. However it is
searched, what is found leads to an entry of it, which is at or below the
offset. So nothing is read outside the table, and the difference is no negative
number.

Every place is exact, but for the end of a text of `UInt32.size - 1` bytes that
are all line feeds, or none of them: the line is the number of line feeds
before the offset, and the column the number of bytes after the last of these,
both from one. Up to there later offsets have later places, and no two offsets
have the same. -/
theorem location_exact {text : String} (hsize : text.utf8ByteSize < UInt32.size) :
    (ofText text).starts.toList.map UInt32.toNat = 0 :: feedsAfter 0 (bytesOf text) ∧
    (∀ offset : UInt32, offset.toNat ≤ text.utf8ByteSize →
      (∃ answer, Finds (ofText text).starts offset answer) ∧
      ∀ answer, Finds (ofText text).starts offset answer →
        ∃ start, (ofText text).starts[entryOf answer]? = some start ∧ start ≤ offset ∧
          (ofText text).location offset =
            { line := ((entryOf answer).toUInt32 + 1).toNat
              column := (offset - start + 1).toNat }) ∧
    (∀ offset : UInt32, offset.toNat ≤ text.utf8ByteSize →
      (((ofText text).location offset).line =
          1 + ((bytesOf text).take offset.toNat).count lineFeed ∧
        ((ofText text).location offset).column =
          1 + (((bytesOf text).take offset.toNat).rtakeWhile (· != lineFeed)).length ↔
        ¬Outgrows text offset)) ∧
    (∀ i j : UInt32, i < j → j.toNat ≤ text.utf8ByteSize → ¬Outgrows text j →
      ((ofText text).location i).Before ((ofText text).location j)) ∧
    (∀ i j : UInt32, i.toNat ≤ text.utf8ByteSize → j.toNat ≤ text.utf8ByteSize →
      (ofText text).location i = (ofText text).location j → i = j) := by
  refine ⟨map_toNat_starts hsize, fun offset h => ?_, fun offset h => ?_,
    fun i j hij hj hfits => ?_, fun i j hi hj heq => ?_⟩
  · exact ⟨exists_finds (increasing_starts hsize), fun answer hanswer => hanswer.entry hsize h⟩
  · rw [← wrapped_eq_iff hsize h, location_eq hsize h]
    exact Location.mk.injEq .. ▸ Iff.rfl
  · have hij := UInt32.lt_iff_toNat_lt.mp hij
    have hi : i.toNat ≤ text.utf8ByteSize := by omega
    -- Only the last offset of all can outgrow, and `i` comes before another one.
    have hfits' : ¬Outgrows text i := fun hlast => by
      have := hlast.1
      omega
    rw [location_eq hsize hi, location_eq hsize hj, (wrapped_eq_iff hsize hi).mpr hfits',
      (wrapped_eq_iff hsize hj).mpr hfits]
    exact placeAfter_take_before hij hj
  · rw [location_eq hsize hi, location_eq hsize hj] at heq
    have hplaces := (bounds_placeAfter hi hsize).eq_of_wrapped_eq (bounds_placeAfter hj hsize) heq
    apply UInt32.toNat.inj
    rcases Nat.lt_trichotomy i.toNat j.toNat with hij | hij | hij
    · exact absurd hplaces (placeAfter_take_before hij hj).ne
    · exact hij
    · exact absurd hplaces.symm (placeAfter_take_before hij hi).ne

/-- A text with an empty line and a character of two bytes: after its last
line feed the fourth line starts. The search for the end hits the last entry of
the table, and the search for the letter misses. -/
theorem location_exact_emptyLine :
    let text := "a\n\né\n"
    let index := ofText text
    bytesOf text = [97, 10, 10, 195, 169, 10] ∧ text.utf8ByteSize = 6 ∧
      index.starts.toList.map UInt32.toNat = [0, 2, 3, 6] ∧
      (∃ answer, Finds index.starts 5 answer) ∧
      (index.location 2).line = 2 ∧ (index.location 2).column = 1 ∧
      (index.location 5).line = 3 ∧ (index.location 5).column = 3 ∧
      (index.location 6).line = 4 ∧ (index.location 6).column = 1 ∧
      (index.location 5).Before (index.location 6) ∧
      index.location 2 ≠ index.location 5 := by
  intro text index
  have hbytes : bytesOf text = [97, 10, 10, 195, 169, 10] := by decide +kernel
  have hsize : text.utf8ByteSize = 6 := by decide +kernel
  have hshort : text.utf8ByteSize < UInt32.size := by decide +kernel
  obtain ⟨htable, hfinds, hexact, hbefore, hinjective⟩ := location_exact hshort
  -- All offsets are small here, so no place outgrows its 32 bits.
  have hfits {offset : UInt32} (h : offset.toNat + 1 ≠ UInt32.size) : ¬Outgrows text offset :=
    fun hlast => h hlast.1
  rw [hsize] at hfinds hexact hbefore hinjective
  rw [hbytes] at htable hexact
  refine ⟨hbytes, hsize, htable, (hfinds 5 (by decide)).1, ?_, ?_, ?_, ?_, ?_, ?_,
    hbefore 5 6 (by decide) (by decide) (hfits (by decide)), ?_⟩
  · exact ((hexact 2 (by decide)).mpr (hfits (by decide))).1
  · exact ((hexact 2 (by decide)).mpr (hfits (by decide))).2
  · exact ((hexact 5 (by decide)).mpr (hfits (by decide))).1
  · exact ((hexact 5 (by decide)).mpr (hfits (by decide))).2
  · exact ((hexact 6 (by decide)).mpr (hfits (by decide))).1
  · exact ((hexact 6 (by decide)).mpr (hfits (by decide))).2
  · intro heq
    exact absurd (hinjective 2 5 (by decide) (by decide) heq) (by decide)

/-- One line of `n` letters. -/
def longLine (n : Nat) : String :=
  String.ofList (List.replicate n 'a')

/-- The letter has one byte. -/
theorem bytesOf_longLine (n : Nat) : bytesOf (longLine n) = List.replicate n 97 := by
  rw [bytesOf_eq_flatMap, longLine, String.toList_ofList]
  induction n with
  | zero => rfl
  | succ n ih =>
    rw [List.replicate_succ, List.flatMap_cons, ih]
    rfl

/-- So the line has as many bytes as letters. -/
theorem utf8ByteSize_longLine (n : Nat) : (longLine n).utf8ByteSize = n := by
  rw [← length_bytesOf, bytesOf_longLine, List.length_replicate]

/-- In one line every byte before an offset counts for its column. -/
theorem rtakeWhile_longLine {n k : Nat} (h : k ≤ n) :
    (((bytesOf (longLine n)).take k).rtakeWhile (· != lineFeed)).length = k := by
  have hletters : ∀ byte ∈ List.replicate k (97 : UInt8), (byte != lineFeed) = true := by
    intro byte hbyte
    rw [List.eq_of_mem_replicate hbyte]
    rfl
  rw [bytesOf_longLine, List.take_replicate, Nat.min_eq_left h,
    List.rtakeWhile_eq_self_iff.mpr hletters, List.length_replicate]

/-- All places of the line have the line number one, and columns that count
from one until there is no room. -/
theorem location_longLine {n : Nat} (hsize : n < UInt32.size) {offset : UInt32}
    (h : offset.toNat ≤ n) : (ofText (longLine n)).location offset =
      { line := 1, column := (1 + offset.toNat) % UInt32.size } := by
  have hlength := utf8ByteSize_longLine n
  have hcount : ((bytesOf (longLine n)).take offset.toNat).count lineFeed = 0 := by
    rw [bytesOf_longLine, List.take_replicate, List.count_replicate]
    rfl
  rw [location_eq (hlength.symm ▸ hsize) (hlength.symm ▸ h), placeAfter, Location.wrapped, hcount,
    rtakeWhile_longLine h]
  rfl

/-- The longest line has no place for its end: the column is `UInt32.size`,
which comes out as zero, before all other columns. -/
theorem location_longLine_end :
    let text := longLine (UInt32.size - 1)
    let last : UInt32 := 4294967295
    text.utf8ByteSize < UInt32.size ∧ last.toNat = text.utf8ByteSize ∧
      1 + (((bytesOf text).take last.toNat).rtakeWhile (· != lineFeed)).length = UInt32.size ∧
      ((ofText text).location last).column = 0 ∧
      last - 1 < last ∧
      ¬((ofText text).location (last - 1)).Before ((ofText text).location last) := by
  intro text last
  have hlength : text.utf8ByteSize = UInt32.size - 1 := utf8ByteSize_longLine _
  have hshort : UInt32.size - 1 < UInt32.size := by decide
  have hlast : last.toNat = UInt32.size - 1 := rfl
  have hfront : (last - 1).toNat = UInt32.size - 2 := by decide
  -- The end and the place before it, in the two last columns that would be needed.
  have hend : ((ofText text).location last) = { line := 1, column := 0 } := by
    rw [location_longLine hshort (Nat.le_of_eq hlast), hlast]
    rfl
  have hother : (ofText text).location (last - 1) = { line := 1, column := UInt32.size - 1 } := by
    rw [location_longLine hshort (by rw [hfront]; decide), hfront]
    rfl
  refine ⟨hlength ▸ hshort, hlast.trans hlength.symm, ?_, by rw [hend], by decide, ?_⟩
  · rw [rtakeWhile_longLine (Nat.le_of_eq hlast), hlast]
    rfl
  · rw [hend, hother]
    unfold Location.Before
    decide

end LineIndex

end AppMetadata
