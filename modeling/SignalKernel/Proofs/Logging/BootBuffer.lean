import Mathlib.Data.List.Induction
import SignalKernel.Logging.Logger

/-!
# What the boot buffer keeps

A text enters the boot buffer as a whole or not at all, so the buffer always holds the texts that it
kept, one after the other: `bytes_appendAll`. Which ones it keeps is said by `fitting`. A text that
is too long for the room that is left is passed over, and a shorter one after it may still be kept.
-/

namespace SignalKernel

/-- The texts that are kept of those offered in order, if there is room for so many bytes. -/
def fitting (room : Nat) : List String → List String
  | [] => []
  | text :: rest =>
      if text.utf8ByteSize ≤ room then text :: fitting (room - text.utf8ByteSize) rest
      else fitting room rest

/-- A text of nine bytes does not fit after one of five; one of two does. -/
example : fitting 10 ["first", "too long!", "ok"] = ["first", "ok"] := by decide +kernel

theorem utf8ByteSize_join_fitting_le (room : Nat) (texts : List String) :
    (String.join (fitting room texts)).utf8ByteSize ≤ room := by
  induction texts generalizing room with
  | nil => exact Nat.zero_le room
  | cons text rest ih =>
    rw [fitting]
    split
    case isTrue hfits =>
      have hrest := ih (room - text.utf8ByteSize)
      rw [String.join_cons, String.utf8ByteSize_append]
      omega
    case isFalse => exact ih room

/-- All texts are kept if there is room for all of them together. -/
theorem fitting_eq_self {room : Nat} {texts : List String}
    (h : (String.join texts).utf8ByteSize ≤ room) : fitting room texts = texts := by
  induction texts generalizing room with
  | nil => rfl
  | cons text rest ih =>
    rw [String.join_cons, String.utf8ByteSize_append] at h
    rw [fitting, if_pos (by omega), ih (by omega)]

/-- A last text is left out exactly if it does not fit together with those kept before it. -/
theorem fitting_concat (room : Nat) (texts : List String) (text : String) :
    fitting room (texts ++ [text]) =
      fitting room texts ++
        if (String.join (fitting room texts)).utf8ByteSize + text.utf8ByteSize ≤ room then [text]
        else [] := by
  induction texts generalizing room with
  | nil =>
    rw [List.nil_append, fitting, fitting]
    have hempty : (String.join []).utf8ByteSize = 0 := rfl
    rw [hempty, Nat.zero_add]
    rfl
  | cons first rest ih =>
    rw [List.cons_append, fitting, fitting]
    split
    case isTrue hfits =>
      rw [ih, String.join_cons, String.utf8ByteSize_append, List.cons_append]
      have hroom : (String.join (fitting (room - first.utf8ByteSize) rest)).utf8ByteSize +
            text.utf8ByteSize ≤ room - first.utf8ByteSize ↔
          first.utf8ByteSize + (String.join (fitting (room - first.utf8ByteSize) rest)).utf8ByteSize
            + text.utf8ByteSize ≤ room := by
        omega
      simp only [hroom]
    case isFalse => exact ih room

namespace BootBuffer

/-- A buffer that holds the bytes of a text holds that text. -/
theorem fromUTF8?_bytes {buffer : BootBuffer} {text : String} (h : buffer.bytes = text.toUTF8) :
    String.fromUTF8? buffer.bytes = some text :=
  fromUTF8?_eq_some_iff.2 (h.trans String.toUTF8_eq_toByteArray)

theorem contents_of_bytes {buffer : BootBuffer} {text : String} (h : buffer.bytes = text.toUTF8) :
    buffer.contents = text := by
  rw [contents, fromUTF8?_bytes h, Option.getD_some]

/-- A text that fits is added to the one that the buffer holds, and another text changes nothing. -/
theorem bytes_append {buffer : BootBuffer} {kept : List String}
    (h : buffer.bytes = (String.join kept).toUTF8)
    (hroom : (String.join kept).utf8ByteSize ≤ capacity) (text : String) :
    (buffer.append text).bytes =
      (String.join (kept ++
        if (String.join kept).utf8ByteSize + text.utf8ByteSize ≤ capacity then [text]
        else [])).toUTF8 := by
  have hsize : buffer.bytes.size = (String.join kept).utf8ByteSize := by
    rw [h, String.toUTF8_eq_toByteArray, String.size_toByteArray]
  rw [append, hsize]
  split
  case isTrue hlong =>
    rw [if_neg (by omega), List.append_nil, h]
  case isFalse hshort =>
    rw [if_pos (by omega), h, String.join_append, String.join_cons, String.join_nil,
      String.append_empty]
    simp only [String.toUTF8_eq_toByteArray, String.toByteArray_append]

/-- Offered texts in order, an empty buffer holds those of them that fit. -/
theorem bytes_appendAll (texts : List String) :
    (texts.foldl append {}).bytes = (String.join (fitting capacity texts)).toUTF8 := by
  induction texts using List.reverseRecOn with
  | nil => rfl
  | append_singleton texts text ih =>
    rw [List.foldl_append, fitting_concat]
    exact bytes_append ih (utf8ByteSize_join_fitting_le capacity texts) text

end BootBuffer

end SignalKernel
