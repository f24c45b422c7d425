import Invocation.Capture
import Invocation.Proofs.Utf8

/-!
# Captured text does not depend on the reads

However a stream is cut into reads, also within a character or within bytes that are none, the
texts handed on make up the text of the whole stream (`texts_eq_decode`). The reader keeps its
decoder from read to read, so that the reads are one feed (`handed_eq_feed`), and the decoder byte
by byte decodes as a whole.
-/

namespace Invocation.Capture

open Invocation.Utf8

theorem flatMap_nonEmpty (text : List Char) : (nonEmpty text).flatMap String.toList = text := by
  cases text with
  | nil => rfl
  | cons c rest => simp [nonEmpty]

theorem ne_empty_of_mem_nonEmpty {text : List Char} {s : String} (h : s ∈ nonEmpty text) :
    s ≠ "" := by
  cases text with
  | nil => cases h
  | cons c rest =>
    obtain rfl := List.mem_singleton.1 h
    intro he
    simpa using congrArg String.toList he

/-- The reads are one feed of the decoder with their bytes. -/
theorem handed_eq_feed (d : Decoder) (reads : List (List UInt8)) :
    (handed d reads).1 = (d.feed reads.flatten).1 ∧
      (handed d reads).2.flatMap String.toList = (d.feed reads.flatten).2 := by
  induction reads generalizing d with
  | nil => exact ⟨rfl, rfl⟩
  | cons read rest ih =>
    obtain ⟨hstate, htext⟩ := ih (d.feed read).1
    rw [List.flatten_cons, Decoder.feed_append]
    refine ⟨hstate, ?_⟩
    simp only [handed, List.flatMap_append, flatMap_nonEmpty, htext]

theorem ne_empty_of_mem_handed {d : Decoder} {reads : List (List UInt8)} {s : String}
    (h : s ∈ (handed d reads).2) : s ≠ "" := by
  induction reads generalizing d with
  | nil => cases h
  | cons read rest ih =>
    rcases List.mem_append.1 h with h | h
    · exact ne_empty_of_mem_nonEmpty h
    · exact ih h

theorem flatMap_texts (reads : List (List UInt8)) :
    (texts reads).flatMap String.toList = decode reads.flatten := by
  obtain ⟨hstate, htext⟩ := handed_eq_feed .ready reads
  rw [← Decoder.toEnd_ready, Decoder.toEnd, ← hstate, ← htext]
  simp only [texts, List.flatMap_append, flatMap_nonEmpty]

/-- **The text handed on** for a stream, cut into any reads, is that of its bytes as a whole, and
nothing empty is handed on; hence any two ways to cut a stream give the same text. -/
theorem texts_eq_decode (reads : List (List UInt8)) :
    (texts reads).flatMap String.toList = decode reads.flatten ∧
      (∀ s ∈ texts reads, s ≠ "") ∧
      ∀ others : List (List UInt8), others.flatten = reads.flatten →
        (texts others).flatMap String.toList = (texts reads).flatMap String.toList := by
  refine ⟨flatMap_texts reads, fun s hs => ?_, fun others h => ?_⟩
  · rcases List.mem_append.1 hs with hs | hs
    · exact ne_empty_of_mem_handed hs
    · exact ne_empty_of_mem_nonEmpty hs
  · rw [flatMap_texts, flatMap_texts, h]

-- A sign cut in two, and a surrogate whose two bytes are none.
example : texts [[0xe2, 0x82], [0xac, 0x0a], [0xed, 0xa0]] = ["€\n", "��"] := by decide

end Invocation.Capture
