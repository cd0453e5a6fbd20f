import Mathlib.Data.List.Basic
import SignalKernel.Logging.Line

/-!
# How lines are cut

A line takes bytes as they come, so a fragment may stop in the middle of a character, and only
reading the line repairs that. `IsCut` says what a text cut to so many bytes should be, in terms of
characters. Whatever the fragments are, a line `Holds` the first bytes of the text that they make up
together, and what is read of it is that text, cut. The main theorem is `cut_exactly`.
-/

namespace SignalKernel

/-! ## Beginnings of a text -/

section Beginnings

variable {first second text : String}

theorem exists_rest (h : first.toList <+: text.toList) : ∃ rest : String, text = first ++ rest := by
  obtain ⟨rest, hrest⟩ := h
  refine ⟨.ofList rest, String.toList_injective ?_⟩
  rw [String.toList_append, String.toList_ofList, hrest]

theorem utf8ByteSize_le_of_beginning (h : first.toList <+: text.toList) :
    first.utf8ByteSize ≤ text.utf8ByteSize := by
  obtain ⟨rest, rfl⟩ := exists_rest h
  rw [String.utf8ByteSize_append]
  exact Nat.le_add_right ..

/-- A beginning that is not shorter is the whole text. -/
theorem eq_of_beginning (h : first.toList <+: text.toList)
    (hsize : text.utf8ByteSize ≤ first.utf8ByteSize) : first = text := by
  obtain ⟨rest, rfl⟩ := exists_rest h
  rw [String.utf8ByteSize_append] at hsize
  have hrest : rest = "" := String.utf8ByteSize_eq_zero_iff.1 (by omega)
  rw [hrest, String.append_empty]

/-- Of two beginnings of one text the shorter one begins the other. -/
theorem beginning_of_utf8ByteSize_le (hfirst : first.toList <+: text.toList)
    (hsecond : second.toList <+: text.toList)
    (hsize : first.utf8ByteSize ≤ second.utf8ByteSize) : first.toList <+: second.toList := by
  rcases List.prefix_or_prefix_of_prefix hfirst hsecond with h | h
  · exact h
  · obtain rfl := eq_of_beginning h hsize
    exact List.prefix_refl _

/-- The bytes of a beginning begin the bytes of the text. The converse holds because no encoding of
a text begins with that of another one by chance. -/
theorem beginning_iff_extract :
    first.toList <+: text.toList ↔
      text.toByteArray.extract 0 first.utf8ByteSize = first.toByteArray := by
  constructor
  case mp =>
    intro h
    obtain ⟨rest, rfl⟩ := exists_rest h
    rw [String.toByteArray_append, ByteArray.extract_append_eq_left String.size_toByteArray.symm]
  case mpr =>
    intro h
    have hsize : first.utf8ByteSize ≤ text.utf8ByteSize := by
      have hbytes := congrArg ByteArray.size h
      rw [ByteArray.size_extract, String.size_toByteArray, String.size_toByteArray] at hbytes
      omega
    refine List.isPrefix_of_utf8Encode_append_eq_utf8Encode
      (text.toByteArray.extract first.utf8ByteSize text.utf8ByteSize) ?_
    rw [String.utf8Encode_toList, String.utf8Encode_toList, ← h,
      ← ByteArray.extract_eq_extract_append_extract _ (Nat.zero_le _) hsize,
      ← String.size_toByteArray, ByteArray.extract_zero_size]

end Beginnings

/-! ## Texts that are cut -/

/-- `cut` is what is left of a text that is cut to so many bytes between two characters: the longest
beginning of it that does not have more. -/
structure IsCut (room : Nat) (text cut : String) : Prop where
  beginning : cut.toList <+: text.toList
  fits : cut.utf8ByteSize ≤ room
  longest : ∀ other : String, other.toList <+: text.toList → other.utf8ByteSize ≤ room →
    other.toList <+: cut.toList

namespace IsCut

variable {room : Nat} {text cut : String}

/-- There is only one way to cut a text. -/
theorem unique {other : String} (h : IsCut room text cut) (h' : IsCut room text other) :
    cut = other :=
  eq_of_beginning (h'.longest cut h.beginning h.fits)
    (utf8ByteSize_le_of_beginning (h.longest other h'.beginning h'.fits))

/-- A text is left whole exactly if there is room for all of it. -/
theorem eq_iff (h : IsCut room text cut) : cut = text ↔ text.utf8ByteSize ≤ room := by
  constructor
  case mp =>
    rintro rfl
    exact h.fits
  case mpr =>
    intro hroom
    have htext := h.longest text (List.prefix_refl _) hroom
    exact (eq_of_beginning htext (utf8ByteSize_le_of_beginning h.beginning)).symm

/-- What stands behind a text that is cut makes no difference. -/
theorem of_append {rest : String} (h : IsCut room (text ++ rest) cut)
    (hroom : room ≤ text.utf8ByteSize) : IsCut room text cut := by
  have htext : text.toList <+: (text ++ rest).toList := by
    rw [String.toList_append]
    exact List.prefix_append ..
  refine ⟨beginning_of_utf8ByteSize_le h.beginning htext (Nat.le_trans h.fits hroom), h.fits,
    fun other hother ↦ h.longest other (hother.trans htext)⟩

/-- A character has at most four bytes, so at most three are left free because the next character
does not fit. -/
theorem room_le_add_three (h : IsCut room text cut) (hlong : room < text.utf8ByteSize) :
    room ≤ cut.utf8ByteSize + 3 := by
  obtain ⟨rest, hrest⟩ := h.beginning
  cases rest with
  | nil =>
      rw [List.append_nil] at hrest
      rw [← String.toList_injective hrest] at hlong
      exact absurd h.fits (Nat.not_le_of_lt hlong)
  | cons c rest =>
      have hnext : (cut.push c).toList <+: text.toList := by
        rw [String.toList_push, ← hrest]
        exact ⟨rest, List.append_assoc ..⟩
      have hc := c.utf8Size_le_four
      have hpos := c.utf8Size_pos
      by_contra hshort
      have hfits : (cut.push c).utf8ByteSize ≤ room := by
        rw [String.utf8ByteSize_push]
        omega
      have hlonger := utf8ByteSize_le_of_beginning (h.longest _ hnext hfits)
      rw [String.utf8ByteSize_push] at hlonger
      omega

end IsCut

/-! ## Reading bytes that were cut -/

/-- The longest text that the first bytes of a text encode is the text, cut. The search goes down
from the longest candidate, so the induction is on the number of bytes still to be tried. -/
theorem isCut_longestText {text : String} {bytes : ByteArray} {capacity : Nat}
    (hbytes : bytes = text.toByteArray.extract 0 capacity) {count : Nat} (h : count ≤ bytes.size) :
    IsCut count text (longestText bytes count) := by
  induction count with
  | zero =>
      refine ⟨List.nil_prefix, Nat.le_refl 0, fun other _ hsize ↦ ?_⟩
      rw [String.utf8ByteSize_eq_zero_iff.1 (Nat.le_zero.1 hsize)]
      exact List.nil_prefix
  | succ count ih =>
      have hbound : bytes.size = min capacity text.utf8ByteSize := by
        rw [hbytes, ByteArray.size_extract, String.size_toByteArray, Nat.sub_zero]
      have hextract : bytes.extract 0 (count + 1) = text.toByteArray.extract 0 (count + 1) := by
        rw [hbytes, ByteArray.extract_extract, Nat.zero_add, Nat.zero_add,
          Nat.min_eq_left (by omega)]
      rw [longestText, hextract]
      split
      case h_1 found hfound =>
          have hencoded := fromUTF8?_eq_some_iff.1 hfound
          have hsize := congrArg ByteArray.size hencoded
          rw [ByteArray.size_extract, String.size_toByteArray, String.size_toByteArray] at hsize
          have hfull : found.utf8ByteSize = count + 1 := by omega
          have hbeginning : found.toList <+: text.toList := by
            rw [beginning_iff_extract, hfull]
            exact hencoded
          refine ⟨hbeginning, Nat.le_of_eq hfull, fun other hother hroom ↦ ?_⟩
          exact beginning_of_utf8ByteSize_le hother hbeginning (by omega)
      case h_2 hnone =>
          obtain ⟨hbeginning, hfits, hlongest⟩ := ih (by omega)
          refine ⟨hbeginning, by omega, fun other hother hroom ↦ hlongest other hother ?_⟩
          -- a beginning of just this size would have been found
          refine Nat.le_of_lt_succ (Nat.lt_of_le_of_ne hroom fun hfull ↦ ?_)
          have hencoded := beginning_iff_extract.1 hother
          rw [hfull] at hencoded
          exact Option.ne_none_iff_exists'.2 ⟨other, fromUTF8?_eq_some_iff.2 hencoded⟩ hnone

/-- Only the first of the two bytes of the last character is there. -/
example : longestText ("né".toUTF8.extract 0 2) 2 = "n" := by
  decide +kernel

/-! ## Writing a line -/

theorem extract_min_size (bytes : ByteArray) (count : Nat) :
    bytes.extract 0 (min count bytes.size) = bytes.extract 0 count := by
  have h : (bytes.extract 0 bytes.size).extract 0 count = bytes.extract 0 count := by
    rw [ByteArray.extract_zero_size]
  rwa [ByteArray.extract_extract, Nat.zero_add, Nat.zero_add] at h

namespace Line

/-- A text was written to the line, which has as many of its bytes as there is room for. -/
def Holds (line : Line) (text : String) : Prop :=
  line.bytes = text.toByteArray.extract 0 capacity

theorem holds_empty : ({} : Line).Holds "" :=
  rfl

namespace Holds

variable {line : Line} {text : String}

theorem size (h : line.Holds text) : line.bytes.size = min text.utf8ByteSize capacity := by
  rw [h, ByteArray.size_extract, String.size_toByteArray, Nat.sub_zero, Nat.min_comm]

theorem write (h : line.Holds text) (fragment : String) :
    (line.write fragment).Holds (text ++ fragment) := by
  have hroom : capacity - line.bytes.size = capacity - text.utf8ByteSize := by
    have hsize := h.size
    omega
  show line.bytes ++ fragment.toUTF8.extract 0 (min fragment.utf8ByteSize
    (capacity - line.bytes.size)) = _
  rw [String.toByteArray_append, ByteArray.extract_append, ← h, hroom,
    String.toUTF8_eq_toByteArray, String.size_toByteArray, Nat.zero_sub,
    ← String.size_toByteArray, Nat.min_comm, extract_min_size]

/-- How a text is divided into fragments makes no difference. -/
theorem writeAll (h : line.Holds text) (fragments : List String) :
    (line.writeAll fragments).Holds (text ++ String.join fragments) := by
  induction fragments generalizing line text with
  | nil =>
      rw [String.join_nil, String.append_empty]
      exact h
  | cons fragment rest ih =>
      rw [String.join_cons, ← String.append_assoc]
      exact ih (h.write fragment)

/-- Reading leaves out a character that was cut, and nothing else. -/
theorem isCut (h : line.Holds text) : IsCut capacity text line.text := by
  have hcut : IsCut line.bytes.size text line.text := isCut_longestText h (Nat.le_refl _)
  rw [h.size] at hcut
  refine ⟨hcut.beginning, Nat.le_trans hcut.fits (Nat.min_le_right ..), fun other hother hroom ↦ ?_⟩
  exact hcut.longest other hother (Nat.le_min.2 ⟨utf8ByteSize_le_of_beginning hother, hroom⟩)

/-- A full line stays as it is. -/
theorem writeAll_of_full (h : line.Holds text) (hfull : capacity ≤ text.utf8ByteSize)
    (fragments : List String) : line.writeAll fragments = line := by
  have hbytes := h.writeAll fragments
  have hnone : capacity - text.toByteArray.size = 0 := by
    rw [String.size_toByteArray]
    omega
  rw [Holds, String.toByteArray_append, ByteArray.extract_append, hnone, Nat.zero_sub,
    ByteArray.extract_same, ByteArray.append_empty, ← h] at hbytes
  exact congrArg Line.mk hbytes

end Holds

theorem holds_writeAll (fragments : List String) :
    (({} : Line).writeAll fragments).Holds (String.join fragments) := by
  have hwritten := holds_empty.writeAll fragments
  rwa [String.empty_append] at hwritten

/-- What a line shows of the fragments that were written to it. -/
structure CutExactly (fragments : List String) (line : Line) : Prop where
  isCut : IsCut 256 (String.join fragments) line.text
  /-- Only the text that the fragments make up counts. -/
  text_eq : ∀ others : List String, String.join others = String.join fragments →
    (({} : Line).writeAll others).text = line.text
  whole_iff : line.text = String.join fragments ↔ (String.join fragments).utf8ByteSize ≤ 256
  almost_full : 256 < (String.join fragments).utf8ByteSize → 256 ≤ line.text.utf8ByteSize + 3
  full_iff : line.bytes.size = 256 ↔ 256 ≤ (String.join fragments).utf8ByteSize
  /-- Nothing that is written to a full line shows up, even if its last character was cut. -/
  closed : line.bytes.size = 256 → ∀ later : List String, (line.writeAll later).text = line.text

/-- A line shows the longest beginning of what was written to it that has at most 256 bytes. -/
theorem cut_exactly (fragments : List String) :
    CutExactly fragments (({} : Line).writeAll fragments) := by
  have hcut := (holds_writeAll fragments).isCut
  have hsize : (({} : Line).writeAll fragments).bytes.size =
      min (String.join fragments).utf8ByteSize 256 := (holds_writeAll fragments).size
  have hfull : (({} : Line).writeAll fragments).bytes.size = 256 ↔
      256 ≤ (String.join fragments).utf8ByteSize := by
    omega
  constructor
  case isCut => exact hcut
  case text_eq =>
    intro others hsame
    have hothers := (holds_writeAll others).isCut
    rw [hsame] at hothers
    exact hothers.unique hcut
  case whole_iff => exact hcut.eq_iff
  case almost_full => exact hcut.room_le_add_three
  case full_iff => exact hfull
  case closed =>
    intro hsize later
    rw [(holds_writeAll fragments).writeAll_of_full (hfull.1 hsize)]

end Line

end SignalKernel
