import JobChain.Text.Lowercase
import Mathlib.Tactic.SplitIfs

/-!
# Texts in lower case

Lowercasing leaves nothing for a second pass to do.  No character of a lowercase form changes when
it is lowercased in its turn, whatever stands around it: it is neither of the two letters with a
rule of their own, and no run of the table covers it.  The second half is a fact about the table,
which is checked run against run: the image of a run misses every run.

* `CaseRun.misses`: a test on two runs, with `CaseRun.covers_eq_false_of_misses`.
* `lowerCode_eq_or_covers_image`: the code point of a lowercase form is in the image of a run, or
  nothing has changed.
* `IsLower`: the characters that stay as they are, with `isLower_of_mem_lowerAt`.
* `lower_lower`: lowercasing is idempotent.
* `lowerChars_of_ascii`: lowercasing ASCII characters.
-/

namespace JobChain.Text

/-! ## Runs that miss each other -/

namespace CaseRun

/-- The code points that those of a run become. -/
def image (r : CaseRun) : CaseRun where
  first := (Int.ofNat r.first + r.shift).toNat
  last := (Int.ofNat r.last + r.shift).toNat
  stride := r.stride
  shift := 0

/-- A range of code points as a run. -/
def ofRange (range : CodeRange) : CaseRun := ⟨range.1, range.2, 1, 0⟩

/-- A test that is passed only by runs without a common code point: one ends before the other
begins, or both go in steps of two through code points of different parity. -/
def misses (r q : CaseRun) : Bool :=
  r.last.blt q.first || q.last.blt r.first ||
    ((r.stride == 2 || r.first == r.last) && q.stride == 2 && (r.first + q.first) % 2 == 1)

variable {r q : CaseRun} {n : Nat}

theorem covers_iff :
    r.covers n = true ↔ r.first ≤ n ∧ n ≤ r.last ∧ (n - r.first) % r.stride = 0 := by
  simp [covers, and_assoc]

theorem covers_ofRange_iff {range : CodeRange} :
    (ofRange range).covers n = true ↔ range.1 ≤ n ∧ n ≤ range.2 := by
  rw [covers_iff]
  show range.1 ≤ n ∧ n ≤ range.2 ∧ (n - range.1) % 1 = 0 ↔ _
  rw [Nat.mod_one]
  simp

theorem covers_eq_false_of_misses (h : r.misses q = true) (hn : r.covers n = true) :
    q.covers n = false := by
  rw [← Bool.not_eq_true]
  intro hq
  obtain ⟨hqfirst, hqlast, hqstep⟩ := covers_iff.mp hq
  obtain ⟨hrfirst, hrlast, hrstep⟩ := covers_iff.mp hn
  simp only [misses, Bool.or_eq_true, Bool.and_eq_true, Nat.blt_eq, beq_iff_eq] at h
  rcases h with (h | h) | ⟨⟨hr, hstride⟩, hparity⟩
  · omega
  · omega
  · rw [hstride] at hqstep
    rcases hr with hr | hr
    · rw [hr] at hrstep
      omega
    · omega

/-- What a run covers is taken to what its image covers. -/
theorem covers_image (h : 0 ≤ Int.ofNat r.first + r.shift) (hn : r.covers n = true) :
    r.image.covers (Int.ofNat n + r.shift).toNat = true := by
  obtain ⟨hfirst, hlast, hstep⟩ := covers_iff.mp hn
  have hdistance : (Int.ofNat n + r.shift).toNat - (Int.ofNat r.first + r.shift).toNat =
      n - r.first := by
    simp only [Int.ofNat_eq_natCast] at h ⊢
    omega
  refine covers_iff.mpr ⟨?_, ?_, ?_⟩
  · show (Int.ofNat r.first + r.shift).toNat ≤ _
    simp only [Int.ofNat_eq_natCast]
    omega
  · show _ ≤ (Int.ofNat r.last + r.shift).toNat
    simp only [Int.ofNat_eq_natCast]
    omega
  · show (_ - (Int.ofNat r.first + r.shift).toNat) % r.stride = 0
    rw [hdistance, hstep]

end CaseRun

/-! ## The table -/

/-- Whether every image of a run of the table misses a run. -/
def imagesMiss (q : CaseRun) : Bool := lowerRanges.all fun r => r.image.misses q

/-- The images of runs miss all runs, so that nothing has to be lowercased twice. -/
theorem imagesMiss_lowerRanges : lowerRanges.all imagesMiss = true := by
  decide +kernel

/-- The images of runs miss the capital dotted I and the code points that are no characters. -/
theorem imagesMiss_exceptions :
    [(0x130, 0x130), (0xD800, 0xDFFF)].all (fun range => imagesMiss (.ofRange range)) = true := by
  decide +kernel

theorem image_bounds :
    lowerRanges.all (fun r =>
      decide (0 ≤ Int.ofNat r.first + r.shift) && decide (r.image.last < 0x110000)) = true := by
  decide +kernel

/-- Lowercasing one character leaves its code point alone, which no run covers then, or takes it
into the image of a run. -/
theorem lowerCode_eq_or_covers_image (n : Nat) :
    (lowerCode n = n ∧ ∀ q ∈ lowerRanges, q.covers n = false) ∨
      ∃ r ∈ lowerRanges, r.image.covers (lowerCode n) = true := by
  unfold lowerCode
  cases hfind : lowerRanges.find? (·.covers n) with
  | none =>
    left
    exact ⟨rfl, fun q hq => by simpa using List.find?_eq_none.mp hfind q hq⟩
  | some r =>
    right
    have hr := List.mem_of_find?_eq_some hfind
    have hbounds := List.all_eq_true.mp image_bounds r hr
    rw [Bool.and_eq_true, decide_eq_true_eq] at hbounds
    have hcovers : r.covers n = true := by simpa using List.find?_some hfind
    exact ⟨r, hr, CaseRun.covers_image hbounds.1 hcovers⟩

/-- A run that all images miss covers the code point of a lowercase form only where nothing has
changed. -/
theorem covers_lowerCode_eq_false {q : CaseRun} (hq : imagesMiss q = true) {n : Nat}
    (hn : q.covers n = false) : q.covers (lowerCode n) = false := by
  rcases lowerCode_eq_or_covers_image n with ⟨hsame, -⟩ | ⟨r, hr, himage⟩
  · rw [hsame]
    exact hn
  · exact CaseRun.covers_eq_false_of_misses (List.all_eq_true.mp hq r hr) himage

/-- No run covers the code point of a lowercase form. -/
theorem covers_lowerCode {q : CaseRun} (hq : q ∈ lowerRanges) (n : Nat) :
    q.covers (lowerCode n) = false := by
  rcases lowerCode_eq_or_covers_image n with ⟨hsame, hnone⟩ | ⟨r, hr, himage⟩
  · rw [hsame]
    exact hnone q hq
  · have hmiss := List.all_eq_true.mp imagesMiss_lowerRanges q hq
    exact CaseRun.covers_eq_false_of_misses (List.all_eq_true.mp hmiss r hr) himage

/-- The code point of a lowercase form is that of a character. -/
theorem toNat_ofNat_lowerCode (c : Char) :
    (Char.ofNat (lowerCode c.toNat)).toNat = lowerCode c.toNat := by
  have hvalid : (lowerCode c.toNat).isValidChar := by
    rcases lowerCode_eq_or_covers_image c.toNat with ⟨hsame, -⟩ | ⟨r, hr, himage⟩
    · rw [hsame]
      exact c.valid
    · have hbounds := List.all_eq_true.mp image_bounds r hr
      have hgap := List.all_eq_true.mp imagesMiss_exceptions (0xD800, 0xDFFF) (by decide)
      have hout := CaseRun.covers_eq_false_of_misses (List.all_eq_true.mp hgap r hr) himage
      rw [← Bool.not_eq_true, CaseRun.covers_ofRange_iff] at hout
      simp only [Bool.and_eq_true, decide_eq_true_eq] at hbounds
      have hlast := (CaseRun.covers_iff.mp himage).2.1
      show _ < 0xD800 ∨ 0xDFFF < _ ∧ _ < 0x110000
      omega
  rw [Char.ofNat, dif_pos hvalid]
  rfl

/-! ## Characters in lower case -/

/-- Lowercasing leaves a character as it is, whatever stands around it. -/
def IsLower (c : Char) : Prop := ∀ before after, lowerAt before c after = [c]

/-- A character stays as it is if it is not the capital dotted I and no run covers it.  The capital
sigma is covered by one. -/
theorem isLower_of_covers_eq_false {c : Char} (hdotted : c.toNat ≠ 0x130)
    (hruns : ∀ q ∈ lowerRanges, q.covers c.toNat = false) : IsLower c := by
  intro before after
  have hsigma : c.toNat ≠ 0x3A3 := by
    intro h
    have hcovers : lowerRanges.any (·.covers 0x3A3) = true := by decide +kernel
    obtain ⟨q, hq, hcovered⟩ := List.any_eq_true.mp hcovers
    rw [← h, hruns q hq] at hcovered
    cases hcovered
  have hcode : lowerCode c.toNat = c.toNat := by
    have hnone : lowerRanges.find? (·.covers c.toNat) = none :=
      List.find?_eq_none.mpr fun q hq => by simp [hruns q hq]
    rw [lowerCode, hnone]
  rw [lowerAt, if_neg hsigma, lowerChar, if_neg hdotted, hcode, Char.ofNat_toNat]

/-- The same as a test that can be run. -/
theorem isLower_of_test {c : Char}
    (h : (c.toNat != 0x130 && lowerRanges.all fun q => !q.covers c.toNat) = true) : IsLower c := by
  rw [Bool.and_eq_true, bne_iff_ne, List.all_eq_true] at h
  exact isLower_of_covers_eq_false h.1 fun q hq => by simpa using h.2 q hq

/-- Every character of a lowercase form is in lower case. -/
theorem isLower_of_mem_lowerAt {before : Bool} {c d : Char} {after : List Char}
    (h : d ∈ lowerAt before c after) : IsLower d := by
  unfold lowerAt lowerChar at h
  split_ifs at h with hsigma hfinal hdotted
  · rw [List.mem_singleton.mp h]
    exact isLower_of_test (by decide +kernel)
  · rw [List.mem_singleton.mp h]
    exact isLower_of_test (by decide +kernel)
  · simp only [List.mem_cons, List.not_mem_nil, or_false] at h
    rcases h with rfl | rfl
    · exact isLower_of_test (by decide +kernel)
    · exact isLower_of_test (by decide +kernel)
  · rw [List.mem_singleton.mp h]
    refine isLower_of_covers_eq_false ?_ fun q hq => ?_
    · have hmiss := List.all_eq_true.mp imagesMiss_exceptions (0x130, 0x130) (by decide)
      have hout : (CaseRun.ofRange (0x130, 0x130)).covers c.toNat = false := by
        rw [← Bool.not_eq_true, CaseRun.covers_ofRange_iff]
        omega
      have hcode := covers_lowerCode_eq_false hmiss hout
      rw [← Bool.not_eq_true, CaseRun.covers_ofRange_iff] at hcode
      rw [toNat_ofNat_lowerCode]
      omega
    · rw [toNat_ofNat_lowerCode]
      exact covers_lowerCode hq c.toNat

theorem isLower_of_mem_lowerChars {before : Bool} {cs : List Char} {d : Char}
    (h : d ∈ lowerChars before cs) : IsLower d := by
  induction cs generalizing before with
  | nil => cases h
  | cons c cs ih =>
    rw [lowerChars_cons, List.mem_append] at h
    rcases h with h | h
    · exact isLower_of_mem_lowerAt h
    · exact ih h

/-- A text all of whose characters are in lower case stays as it is. -/
theorem lowerChars_eq_self {before : Bool} {cs : List Char} (h : ∀ c ∈ cs, IsLower c) :
    lowerChars before cs = cs := by
  induction cs generalizing before with
  | nil => rfl
  | cons c cs ih =>
    obtain ⟨hc, hcs⟩ := List.forall_mem_cons.mp h
    rw [lowerChars_cons, hc before cs, ih hcs]
    rfl

/-- Lowercasing is idempotent. -/
@[simp] theorem lower_lower (s : String) : lower (lower s) = lower s := by
  have hchars : ∀ c ∈ (lower s).toList, IsLower c := by
    intro c hc
    rw [toList_lower] at hc
    exact isLower_of_mem_lowerChars hc
  rw [lower, lowerChars_eq_self hchars, String.ofList_toList]

/-! ## ASCII characters -/

/-- All runs of the table but the first lie beyond ASCII. -/
theorem lowerRanges_tail_beyond_ascii :
    lowerRanges.tail.all (fun r => decide (0x80 ≤ r.first)) = true := by
  decide +kernel

theorem lowerCode_of_ascii {n : Nat} (h : n < 0x80) :
    lowerCode n = if 0x41 ≤ n ∧ n ≤ 0x5A then n + 0x20 else n := by
  have hranges : lowerRanges = ⟨0x41, 0x5A, 1, 32⟩ :: lowerRanges.tail := rfl
  have hbeyond : lowerRanges.tail.find? (·.covers n) = none := by
    refine List.find?_eq_none.mpr fun r hr hcovers => ?_
    have hfirst := of_decide_eq_true (List.all_eq_true.mp lowerRanges_tail_beyond_ascii r hr)
    have hle := (CaseRun.covers_iff.mp hcovers).1
    omega
  rw [lowerCode, hranges, List.find?_cons, hbeyond]
  split_ifs with hletter
  · have hcovers : CaseRun.covers ⟨0x41, 0x5A, 1, 32⟩ n = true :=
      CaseRun.covers_iff.mpr ⟨hletter.1, hletter.2, Nat.mod_one _⟩
    rw [hcovers]
    rfl
  · have hcovers : CaseRun.covers ⟨0x41, 0x5A, 1, 32⟩ n = false := by
      rw [Bool.eq_false_iff]
      intro hcovers
      obtain ⟨hfirst, hlast, -⟩ := CaseRun.covers_iff.mp hcovers
      exact hletter ⟨hfirst, hlast⟩
    rw [hcovers]

theorem ofNat_lowerCode_of_ascii {n : Nat} (h : n < 0x80) :
    Char.ofNat (lowerCode n) = (Char.ofNat n).toLower := by
  have hall : ∀ n < 0x80, Char.ofNat (if 0x41 ≤ n ∧ n ≤ 0x5A then n + 0x20 else n) =
      (Char.ofNat n).toLower := by
    decide +kernel
  rw [lowerCode_of_ascii h, hall n h]

/-- The lowercase form of an ASCII character is the ASCII character that lowercases it. -/
theorem lowerAt_of_ascii {c : Char} (h : c.toNat < 0x80) (before : Bool) (after : List Char) :
    lowerAt before c after = [c.toLower] := by
  have hsigma : c.toNat ≠ 0x3A3 := by omega
  have hdotted : c.toNat ≠ 0x130 := by omega
  rw [lowerAt, if_neg hsigma, lowerChar, if_neg hdotted, ofNat_lowerCode_of_ascii h,
    Char.ofNat_toNat]

theorem lowerChars_of_ascii {cs : List Char} (h : ∀ c ∈ cs, c.toNat < 0x80) (before : Bool) :
    lowerChars before cs = cs.map Char.toLower := by
  induction cs generalizing before with
  | nil => rfl
  | cons c cs ih =>
    obtain ⟨hc, hcs⟩ := List.forall_mem_cons.mp h
    rw [lowerChars_cons, lowerAt_of_ascii hc, ih hcs]
    rfl

end JobChain.Text
