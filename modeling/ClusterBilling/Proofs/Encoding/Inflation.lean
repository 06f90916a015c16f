import Mathlib
import ClusterBilling.Encoding.Compression
import ClusterBilling.Proofs.Text.Lines

/-!
Why data cannot be unpacked is told on a single line. Each step of reading keeps this, whatever
bits it is given.
-/
set_option mvcgen.warning false

namespace ClusterBilling.Encoding
open Std.Do

namespace Deflate

/-- The reason, if there is one, is a single line. -/
def Stop.OneLine (stop : Stop) : Prop := ∀ reason, stop = .fault reason → '\n' ∉ reason.toList

theorem Stop.oneLine_exhausted : Stop.OneLine .exhausted := nofun

theorem Stop.oneLine_fault {reason : String} (h : '\n' ∉ reason.toList) :
    Stop.OneLine (.fault reason) := by
  intro reason' hr
  cases hr
  exact h

/-- Wherever it begins, a step that stops has a reason of a single line. -/
abbrev StopsInLine {α : Type} (step : Inflater α) : Prop :=
  ⦃⌜True⌝⦄ step ⦃post⟨fun _ _ => ⌜True⌝, fun stop _ => ⌜stop.OneLine⌝⟩⦄

section
variable {α β : Type}

@[spec] theorem fault_spec (reason : String) :
    ⦃⌜ '\n' ∉ reason.toList⌝⦄ (fault reason : Inflater α)
    ⦃post⟨fun _ _ => ⌜False⌝, fun stop _ => ⌜stop.OneLine⌝⟩⦄ := by
  mvcgen [fault]
  next h => exact Stop.oneLine_fault h

@[spec] theorem discard_spec {step : Inflater α} (h : StopsInLine step) :
    StopsInLine (discard step) := by
  change StopsInLine (Function.const α () <$> step)
  mvcgen [h]

theorem mapM_spec {step : α → Inflater β} (h : ∀ a, StopsInLine (step a)) (l : List α) :
    StopsInLine (l.mapM step) := by
  induction l with
  | nil =>
    rw [List.mapM_nil]
    mvcgen
  | cons a l ih =>
    rw [List.mapM_cons]
    mvcgen [h, ih]

/-- What stops a run is told on a single line. -/
theorem newline_not_mem_of_run {step : Inflater Unit} (h : StopsInLine step) {input : List UInt8}
    {reason : String} (hr : run step input = .error reason) : '\n' ∉ reason.toList := by
  unfold run at hr
  split at hr
  · next s hs =>
    cases hr
    have hrun : (StateT.run (ExceptT.run step) { bits := bitsOf input }).run =
        (.error (.fault reason), s) := hs
    have hstop : Stop.OneLine (.fault reason) := by
      simpa [wp, hrun] using h { bits := bitsOf input } trivial
    exact hstop reason rfl
  · cases hr

end

section codes

@[spec] theorem bit_spec : StopsInLine bit := by
  mvcgen [bit]
  exact Stop.oneLine_exhausted

@[spec] theorem number_spec (n : ℕ) : StopsInLine (number n) := by
  induction n with
  | zero => mvcgen [number]
  | succ n ih => mvcgen [number, ih]

@[spec] theorem numbers_spec (count n : ℕ) :
    StopsInLine ((List.range count).mapM fun _ => number n) :=
  mapM_spec (fun _ => number_spec n) _

@[spec] theorem walk_spec (c : Code) (offset index : ℕ) (counts : List ℕ) :
    StopsInLine (Code.symbol?.walk c offset index counts) := by
  induction counts generalizing offset index with
  | nil => mvcgen [Code.symbol?.walk]
  | cons n counts ih => mvcgen [Code.symbol?.walk, ih]

@[spec] theorem symbol?_spec (c : Code) : StopsInLine c.symbol? := by
  mvcgen [Code.symbol?]

end codes

section blocks
variable (literals distances : Code)

@[spec] theorem put_spec (b : UInt8) : StopsInLine (put b) := by
  mvcgen [put]

@[spec] theorem align_spec : StopsInLine align := by
  mvcgen [align]

@[spec] theorem copy_spec (distance n : ℕ) : StopsInLine (copy distance n) := by
  induction n with
  | zero => mvcgen [copy]
  | succ n ih => mvcgen [copy, ih]

@[spec] theorem within_spec (range? : Option (ℕ × ℕ)) (reason : String) :
    ⦃⌜ '\n' ∉ reason.toList⌝⦄ within range? reason
    ⦃post⟨fun _ _ => ⌜True⌝, fun stop _ => ⌜stop.OneLine⌝⟩⦄ := by
  cases range? <;> mvcgen [within]

@[spec] theorem repetition_spec (symbol : ℕ) : StopsInLine (repetition distances symbol) := by
  mvcgen [repetition] <;> decide

@[spec] theorem symbols_spec (n : ℕ) : StopsInLine (symbols literals distances n) := by
  induction n with
  | zero =>
    mvcgen [symbols]
    exact Stop.oneLine_exhausted
  | succ n ih =>
    mvcgen [symbols, ih]
    decide

@[spec] theorem plainBytes_spec (n : ℕ) : StopsInLine (plainBytes n) := by
  induction n with
  | zero => mvcgen [plainBytes]
  | succ n ih => mvcgen [plainBytes, ih]

@[spec] theorem plainBlock_spec : StopsInLine plainBlock := by
  mvcgen [plainBlock]
  decide

@[spec] theorem codedBlock_spec : StopsInLine (codedBlock literals distances) := by
  mvcgen [codedBlock]

@[spec] theorem codeLengths_spec (c : Code) (total : ℕ) (lengths : List ℕ) (steps : ℕ) :
    StopsInLine (codeLengths c total lengths steps) := by
  induction steps generalizing lengths with
  | zero => mvcgen [codeLengths]
  | succ n ih => mvcgen [codeLengths, codeLengths.continueWith, ih] <;> decide

@[spec] theorem ownCodes_spec : StopsInLine ownCodes := by
  mvcgen [ownCodes] <;> decide

@[spec] theorem block_spec : StopsInLine block := by
  mvcgen [block]
  decide

@[spec] theorem blocks_spec (n : ℕ) : StopsInLine (blocks n) := by
  induction n with
  | zero =>
    mvcgen [blocks]
    exact Stop.oneLine_exhausted
  | succ n ih => mvcgen [blocks, ih]

@[spec] theorem allBlocks_spec : StopsInLine allBlocks := by
  mvcgen [allBlocks]

end blocks

section forms

@[spec] theorem skipText_spec (n : ℕ) : StopsInLine (skipText n) := by
  induction n with
  | zero =>
    mvcgen [skipText]
    exact Stop.oneLine_exhausted
  | succ n ih => mvcgen [skipText, ih]

@[spec] theorem gzipHeader_spec (input : List UInt8) : StopsInLine (gzipHeader input) := by
  mvcgen [gzipHeader] <;> decide

@[spec] theorem gzip_spec (input : List UInt8) : StopsInLine (gzip input) := by
  mvcgen [gzip] <;> decide

@[spec] theorem zlib_spec : StopsInLine zlib := by
  mvcgen [zlib] <;> decide

end forms
end Deflate

namespace Compression
open Deflate

theorem newline_not_mem_of_unpack {form : Compression} {bs : List UInt8} {reason : String}
    (h : form.unpack bs = .error reason) : '\n' ∉ reason.toList := by
  cases form with
  | gzip => exact newline_not_mem_of_run (gzip_spec bs) h
  | deflate =>
    rw [unpack] at h
    split at h
    · exact newline_not_mem_of_run allBlocks_spec h
    · exact newline_not_mem_of_run zlib_spec h

/-- Why a body cannot be unpacked is told on a single line. -/
theorem newline_not_mem_of_unpackAll {forms : List Compression} {bs : List UInt8} {reason : String}
    (h : unpackAll forms bs = .error reason) : '\n' ∉ reason.toList := by
  unfold unpackAll at h
  generalize forms.reverse = forms at h
  induction forms generalizing bs with
  | nil => cases h
  | cons form forms ih =>
    rw [List.foldlM_cons] at h
    cases hu : form.unpack bs with
    | error reason' =>
      rw [hu] at h
      cases h
      exact newline_not_mem_of_unpack hu
    | ok bs' =>
      rw [hu] at h
      exact ih h

end Compression
end ClusterBilling.Encoding
