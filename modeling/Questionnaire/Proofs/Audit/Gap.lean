import Questionnaire.Proofs.Audit.Coverage

/-!
Gaps between bands with whole bounds.  The check goes over the bands by their lower bounds and keeps
the first value that is not covered yet; what it reports are exactly the percentages without a band.
A gap is reported by the texts of its ends, which integers beyond the range of the binary format do
not have.
-/

namespace Questionnaire

attribute [local instance] Binary64.corePow

attribute [local irreducible] Binary64.one Binary64.limit

/-- A value is one of those that a finding reports to have no band. -/
def Finding.Spans (finding : Finding) (value : Number) : Prop :=
  ∃ first last, finding.code = "BAND_GAP"
    ∧ finding.details = [("gapStart", .num first), ("gapEnd", .num last)]
    ∧ first.le value = true ∧ value.le last = true

namespace Audit

section Finding

variable {first last value : Number} {gap : Finding}

theorem exists_gapFinding_iff :
    (∃ gap, gapFinding first last = .ok gap) ↔ first.IsUsable ∧ last.IsUsable :=
  Number.exists_compactTexts_iff

theorem spans_gapFinding_iff (h : gapFinding first last = .ok gap) :
    gap.Spans value ↔ first.le value = true ∧ value.le last = true := by
  obtain ⟨_, -, h⟩ := bind_eq_ok.mp h
  obtain ⟨_, -, h⟩ := bind_eq_ok.mp h
  obtain rfl := Except.ok.inj h
  simp [Finding.Spans]

end Finding

variable {covered : Number} {band : ScoreBand}

/-- Before a band there is a gap of the percentages from the covered ones up to it. -/
theorem exists_spans_before_iff (hband : band.IsWhole) (hnonneg : Number.le 0 covered = true)
    {here : List Finding}
    (h : onlyIf (covered.lt band.min) (do gapFinding covered (← band.min.sub 1)) = .ok here)
    {p : Nat} (hp : p ≤ 100) : (∃ gap ∈ here, gap.Spans (.int p))
      ↔ covered.le (.int p) = true ∧ (Number.int p).lt band.min = true := by
  obtain ⟨i, hi⟩ := hband.min_isWhole
  by_cases hlt : covered.lt band.min = true
  · have hpos := (Number.int_lt_iff hi).mp (Number.lt_of_le_of_lt hnonneg hlt)
    obtain ⟨last, hlast, hupTo, -⟩ := Number.exists_sub_one hi hpos
    obtain ⟨gap, hgap⟩ := exists_onlyIf_iff.mp ⟨here, h⟩ hlt
    have hmem (one : Finding) : one ∈ here ↔ one = gap := by
      rw [mem_onlyIf_iff h, hgap]
      simp [hlt, eq_comm]
    obtain ⟨_, hsub, hgap⟩ := bind_eq_ok.mp hgap
    obtain rfl := Except.ok.inj (hlast.symm.trans hsub)
    simp only [hmem, exists_eq_left, spans_gapFinding_iff hgap, hupTo p (by omega),
      Number.int_lt_iff hi]
  · have hnone (one : Finding) : one ∉ here := fun hone => hlt ((mem_onlyIf_iff h).mp hone).1
    constructor
    · rintro ⟨one, hone, -⟩
      exact absurd hone (hnone one)
    · rintro ⟨hle, habove⟩
      exact absurd (Number.lt_of_le_of_lt hle habove) hlt

/-- A gap before a band has its texts unless it reaches beyond the range of the format. -/
theorem exists_before_iff (hband : band.IsWhole) (hcovered : covered.IsCounted)
    (hnonneg : Number.le 0 covered = true) :
    (∃ here, onlyIf (covered.lt band.min) (do gapFinding covered (← band.min.sub 1)) = .ok here)
      ↔ ∀ p : Int, band.min = .int (p + 1) → firstTooLarge ≤ p → ¬ covered.le (.int p) = true := by
  obtain ⟨i, hi⟩ := hband.min_isWhole
  have hgap (hlt : covered.lt band.min = true) :
      (∃ gap, (do gapFinding covered (← band.min.sub 1)) = .ok gap)
        ↔ covered.IsUsable ∧ band.min.le (.int firstTooLarge) = true := by
    have hpos := (Number.int_lt_iff hi).mp (Number.lt_of_le_of_lt hnonneg hlt)
    obtain ⟨last, hlast, -, husable⟩ := Number.exists_sub_one hi hpos
    rw [hlast, ← husable]
    exact exists_gapFinding_iff
  rw [exists_onlyIf_iff]
  constructor
  · intro h p hmin hp hle
    have hlt : covered.lt band.min = true := by
      rw [hmin]
      exact Number.lt_of_le_of_lt hle (Number.int_lt_int.mpr (Int.lt_succ p))
    have hbelow := ((hgap hlt).mp (h hlt)).2
    rw [hmin, Number.int_le_int] at hbelow
    omega
  · intro h hlt
    have hbelow : band.min.le (.int firstTooLarge) = true := by
      cases hmin : band.min with
      | float x =>
          have hcounted : (Number.float x).IsCounted := hmin ▸ hband.min_isWhole.isCounted
          exact Number.le_of_lt (Number.float_lt_int hcounted le_rfl)
      | int j =>
          rw [Number.int_le_int]
          by_contra hlarge
          rw [hmin, ← Int.sub_add_cancel j 1] at hlt
          exact h (j - 1) (by rw [hmin, Int.sub_add_cancel]) (by omega)
            (Number.le_int_of_lt_succ hcovered (by omega) hlt)
    exact (hgap hlt).mpr
      ⟨Number.isUsable_of_between hnonneg (Number.lt_of_lt_of_le hlt hbelow), hbelow⟩

/-- What is covered with a band: percentages, and integers beyond the range of the format, from
behind what was covered and from behind the band. -/
theorem exists_next_covered (hband : band.IsWhole) (hcovered : covered.IsCounted) :
    ∃ next, band.max.add 1 = .ok next ∧ (covered.max next).IsCounted
      ∧ covered.le (covered.max next) = true
      ∧ ∀ p, Number.IsKeptApart p → ((covered.max next).le (.int p) = true
        ↔ covered.le (.int p) = true ∧ band.max.lt (.int p) = true) := by
  obtain ⟨i, hi⟩ := hband.max_isWhole
  obtain ⟨next, hnext, hcounted, hupTo⟩ := Number.exists_add_one hi
  obtain ⟨hmax, hle, -⟩ := Number.max_spec hcovered hcounted
  refine ⟨next, hnext, hmax, hle, fun p hp => ?_⟩
  rw [Number.max_le_iff hcovered.place?_ne_none hcounted.place?_ne_none, hupTo p hp,
    Number.lt_int_iff hi]

variable {bands : List ScoreBand}

/-- Over bands by their lower bounds, a percentage is reported exactly if it is not covered at the
start and no band holds it. -/
theorem exists_spans_gapsFrom_iff (hwhole : ∀ band ∈ bands, band.IsWhole)
    (hsorted : bands.Pairwise fun a b => a.min.le b.min = true) (hcovered : covered.IsCounted)
    (hnonneg : Number.le 0 covered = true) {found : List Finding}
    (h : gapsFrom covered bands = .ok found) {p : Nat} (hp : p ≤ 100) :
    (∃ gap ∈ found, gap.Spans (.int p))
      ↔ covered.le (.int p) = true ∧ ∀ band ∈ bands, ¬ band.holds (.int p) = true := by
  induction bands generalizing covered found with
  | nil =>
      have hfull : (Number.int p).le 100 = true := Number.int_le_int.mpr (by exact_mod_cast hp)
      rw [gapsFrom] at h
      constructor
      · rintro ⟨gap, hmem, hspans⟩
        obtain ⟨-, hgap⟩ := (mem_onlyIf_iff h).mp hmem
        exact ⟨((spans_gapFinding_iff hgap).mp hspans).1, List.forall_mem_nil _⟩
      · rintro ⟨hle, -⟩
        have hopen := Number.le_trans hle hfull
        obtain ⟨gap, hgap⟩ := exists_onlyIf_iff.mp ⟨found, h⟩ hopen
        exact ⟨gap, (mem_onlyIf_iff h).mpr ⟨hopen, hgap⟩,
          (spans_gapFinding_iff hgap).mpr ⟨hle, hfull⟩⟩
  | cons band rest ih =>
      obtain ⟨hband, hrest⟩ := List.forall_mem_cons.mp hwhole
      obtain ⟨hfirst, hsorted⟩ := List.pairwise_cons.mp hsorted
      obtain ⟨here, next, later, hhere, hnext, hlater, rfl⟩ := gapsFrom_cons_eq_ok_iff.mp h
      obtain ⟨_, hsum, hcounted, hle, hupTo⟩ := exists_next_covered hband hcovered
      obtain rfl := Except.ok.inj (hsum.symm.trans hnext)
      have hbefore := exists_spans_before_iff hband hnonneg hhere hp
      have hbehind := ih hrest hsorted hcounted (Number.le_trans hnonneg hle) hlater
      rw [hupTo p (.inl ⟨Int.natCast_nonneg p, by omega⟩)] at hbehind
      have hout (other : ScoreBand) (hother : other.IsWhole) :=
        hother.isFinite.not_holds_iff (Number.isCounted_int p).place?_ne_none
      -- what is below the first band is below all of them
      have hbelow (habove : (Number.int p).lt band.min = true) :
          ∀ other ∈ rest, ¬ other.holds (.int p) = true := fun other hother =>
        (hout other (hrest other hother)).mpr
          (.inl (Number.lt_of_lt_of_le habove (hfirst other hother)))
      have hparts : (∃ gap ∈ here ++ later, gap.Spans (.int p))
          ↔ (∃ gap ∈ here, gap.Spans (.int p)) ∨ ∃ gap ∈ later, gap.Spans (.int p) := by
        simp only [List.mem_append, or_and_right, exists_or]
      rw [hparts, hbefore, hbehind, List.forall_mem_cons, hout band hband]
      constructor
      · rintro (⟨hopen, habove⟩ | ⟨⟨hopen, hended⟩, hout⟩)
        · exact ⟨hopen, .inl habove, hbelow habove⟩
        · exact ⟨hopen, .inr hended, hout⟩
      · rintro ⟨hopen, habove | hended, hout⟩
        · exact .inl ⟨hopen, habove⟩
        · exact .inr ⟨⟨hopen, hended⟩, hout⟩

/-- There is a report on a band and the rest exactly if there is one before the band and one on the
rest. -/
theorem exists_gapsFrom_cons_iff {next : Number} (hnext : band.max.add 1 = .ok next) :
    (∃ found, gapsFrom covered (band :: bands) = .ok found)
      ↔ (∃ here, onlyIf (covered.lt band.min)
          (do gapFinding covered (← band.min.sub 1)) = .ok here)
        ∧ ∃ later, gapsFrom (covered.max next) bands = .ok later := by
  simp only [gapsFrom_cons_eq_ok_iff, hnext]
  constructor
  · rintro ⟨_, here, _, later, hhere, ⟨rfl⟩, hlater, -⟩
    exact ⟨⟨here, hhere⟩, later, hlater⟩
  · rintro ⟨⟨here, hhere⟩, later, hlater⟩
    exact ⟨_, here, next, later, hhere, rfl, hlater, rfl⟩

/-- Over bands by their lower bounds, the gaps are reported exactly if every integer that is not
covered at the start, lies just below a band and is beyond the range of the format is held by
another band. -/
theorem exists_gapsFrom_iff (hwhole : ∀ band ∈ bands, band.IsWhole)
    (hsorted : bands.Pairwise fun a b => a.min.le b.min = true) (hcovered : covered.IsCounted)
    (hnonneg : Number.le 0 covered = true) :
    (∃ found, gapsFrom covered bands = .ok found)
      ↔ ∀ band ∈ bands, ∀ p : Int, band.min = .int (p + 1) → firstTooLarge ≤ p →
        covered.le (.int p) = true → ∃ other ∈ bands, other.holds (.int p) = true := by
  induction bands generalizing covered with
  | nil =>
      have hfits : Number.lt 100 (.int firstTooLarge) = true := by decide +kernel
      have hlast : (100 : Number).IsUsable := by
        rintro _ ⟨rfl⟩
        decide +kernel
      have hgap : ∃ found, gapsFrom covered [] = .ok found := by
        refine exists_onlyIf_iff.mpr fun hopen => exists_gapFinding_iff.mpr ⟨?_, hlast⟩
        exact Number.isUsable_of_between hnonneg (Number.lt_of_le_of_lt hopen hfits)
      exact iff_of_true hgap (List.forall_mem_nil _)
  | cons band rest ih =>
      obtain ⟨hband, hrest⟩ := List.forall_mem_cons.mp hwhole
      obtain ⟨hfirst, hsorted⟩ := List.pairwise_cons.mp hsorted
      obtain ⟨next, hnext, hcounted, hle, hupTo⟩ := exists_next_covered hband hcovered
      rw [exists_gapsFrom_cons_iff hnext, exists_before_iff hband hcovered hnonneg,
        ih hrest hsorted hcounted (Number.le_trans hnonneg hle), List.forall_mem_cons]
      have hmax {p : Int} (hp : firstTooLarge ≤ p) := hupTo p (.inr hp)
      have hout {p : Int} (other : ScoreBand) (hother : other.IsWhole) :=
        hother.isFinite.not_holds_iff (Number.isCounted_int p).place?_ne_none
      constructor
      · rintro ⟨hhere, hlater⟩
        refine ⟨fun p hmin hp hopen => absurd hopen (hhere p hmin hp), ?_⟩
        intro other hother p hmin hp hopen
        by_cases hheld : band.holds (.int p) = true
        · exact ⟨band, List.mem_cons_self, hheld⟩
        · rcases (hout band hband).mp hheld with habove | hended
          · -- the band begins where the other one does
            have hbegun : band.min.le (.int (p + 1)) = true := hmin ▸ hfirst other hother
            have heq := Number.eq_succ_of_between hband.min_isWhole.isCounted hp habove hbegun
            exact absurd hopen (hhere p heq hp)
          · obtain ⟨holder, hholder, hholds⟩ :=
              hlater other hother p hmin hp ((hmax hp).mpr ⟨hopen, hended⟩)
            exact ⟨holder, List.mem_cons_of_mem band hholder, hholds⟩
      · rintro ⟨hhere, hlater⟩
        refine ⟨fun p hmin hp hopen => ?_, fun other hother p hmin hp hopen => ?_⟩
        · -- no band begins before this one
          obtain ⟨holder, hholder, hholds⟩ := hhere p hmin hp hopen
          have habove : (Number.int p).lt band.min = true := by
            rw [hmin]
            exact Number.int_lt_int.mpr (Int.lt_succ p)
          have hbegin : band.min.le holder.min = true := by
            rcases List.mem_cons.mp hholder with rfl | hholder
            · exact Number.le_refl hband.min_isWhole.isCounted.place?_ne_none
            · exact hfirst holder hholder
          exact (hout holder (hwhole holder hholder)).mpr
            (.inl (Number.lt_of_lt_of_le habove hbegin)) hholds
        · obtain ⟨hopen, hended⟩ := (hmax hp).mp hopen
          obtain ⟨holder, hholder, hholds⟩ := hlater other hother p hmin hp hopen
          rcases List.mem_cons.mp hholder with rfl | hholder
          · exact absurd hholds ((hout holder hband).mpr (.inr hended))
          · exact ⟨holder, hholder, hholds⟩

theorem gapFinding_failsOnly {first last : Number} :
    FailsOnly [.outOfRange] (gapFinding first last) :=
  Number.compactText_failsOnly.bind fun _ _ => Number.compactText_failsOnly.bind fun _ _ => .ok

theorem onlyIf_failsOnly {causes : List Fault} {condition : Bool} {finding : Except Fault Finding}
    (h : FailsOnly causes finding) : FailsOnly causes (onlyIf condition finding) := by
  cases condition with
  | false => exact .ok
  | true => exact h.map

theorem gapsFrom_failsOnly : FailsOnly [.outOfRange] (gapsFrom covered bands) := by
  induction bands generalizing covered with
  | nil => exact onlyIf_failsOnly gapFinding_failsOnly
  | cons band rest ih =>
      refine (onlyIf_failsOnly ?_).bind fun _ _ => Number.combine_failsOnly.bind fun _ _ =>
        ih.bind fun _ _ => .ok
      exact Number.combine_failsOnly.bind fun _ _ => gapFinding_failsOnly

/-- Of bands with whole bounds the percentages that have no band are reported, and no others;
without a gap every percentage has a band.  There is a report exactly if every integer beyond the
range of the binary format that lies just below a band has a band; else it fails for such an
integer. -/
theorem coverage_reports_unlabelled {bands : List ScoreBand} (hbands : bands ≠ [])
    (hwhole : ∀ band ∈ bands, band.IsWhole) :
    ((∃ findings, coverage bands = .ok findings) ↔ ∀ band ∈ bands, ∀ p : Int,
        band.min = .int (p + 1) → firstTooLarge ≤ p → ScoreBand.resolve? bands (.int p) ≠ none)
      ∧ FailsOnly [.outOfRange] (coverage bands)
      ∧ ∀ findings, coverage bands = .ok findings →
        (∀ p : Nat, p ≤ 100 →
          (ScoreBand.resolve? bands (.int p) = none ↔ ∃ gap ∈ findings, gap.Spans (.int p)))
        ∧ ((∀ finding ∈ findings, finding.code ≠ "BAND_GAP") →
          ∀ p : Nat, p ≤ 100 → ∃ band, ScoreBand.resolve? bands (.int p) = some band) := by
  have hcoverage : coverage bands = gapsFrom 0 (sortBy (fun a b => a.min.lt b.min) bands) :=
    if_neg (by simpa using hbands)
  have hmem (band : ScoreBand) : band ∈ sortBy (fun a b => a.min.lt b.min) bands ↔ band ∈ bands :=
    (sortBy_perm _ bands).mem_iff
  have hsorted := ScoreBand.pairwise_sortBy_min fun band hband => (hwhole band hband).isFinite
  have hwhole' := fun band hband => hwhole band ((hmem band).mp hband)
  have hnone (value : Number) : ScoreBand.resolve? bands value = none
      ↔ ∀ band ∈ sortBy (fun a b => a.min.lt b.min) bands, ¬ band.holds value = true := by
    simp only [ScoreBand.resolve?_eq_none_iff, hmem]
  have hgap {findings : List Finding} (h : coverage bands = .ok findings) (p : Nat) (hp : p ≤ 100) :
      ScoreBand.resolve? bands (.int p) = none ↔ ∃ gap ∈ findings, gap.Spans (.int p) := by
    rw [hnone, exists_spans_gapsFrom_iff hwhole' hsorted Number.isCounted_zero (by decide +kernel)
      (hcoverage.symm.trans h) hp]
    exact (and_iff_right (Number.zero_le_int.mpr (Int.natCast_nonneg p))).symm
  refine ⟨?_, hcoverage ▸ gapsFrom_failsOnly, fun findings h => ⟨hgap h, fun hclean p hp => ?_⟩⟩
  · rw [hcoverage, exists_gapsFrom_iff hwhole' hsorted Number.isCounted_zero (by decide +kernel)]
    have hzero {p : Int} (hp : firstTooLarge ≤ p) : Number.le 0 (.int p) = true :=
      Number.zero_le_int.mpr (le_trans (Int.natCast_nonneg _) hp)
    simp only [ne_eq, hnone, not_forall, not_not, exists_prop, hmem]
    exact forall₅_congr fun _ _ _ _ hp => forall_prop_of_true (hzero hp)
  · refine Option.ne_none_iff_exists'.mp fun hunlabelled => ?_
    obtain ⟨gap, hmem, -, -, hcode, -⟩ := (hgap h p hp).mp hunlabelled
    exact hclean gap hmem hcode

end Audit

namespace Sample

/-- Bands in no order: one that reaches beyond a hundred, one below zero, one within another, one
turned around, and one between whole numbers of the other kind. -/
def scattered : List ScoreBand :=
  [band "high" 60 130, band "low" (.int (-10)) 19, band "inner" 5 10, band "turned" 50 40,
    band "middle" (.float (.ofRatio false 30 1)) (.float (.ofRatio false 35 1))]

/-- A band that begins beyond the range of the binary format. -/
def remote : ScoreBand := band "far" (.int (10 ^ 309)) (.int (10 ^ 309 + 1))

end Sample

open Sample

theorem Audit.coverage_reports_unlabelled_scattered :
    ∃ findings, coverage scattered = .ok findings
      ∧ (∃ gap ∈ findings, gap.Spans (.int 25)) ∧ (∃ gap ∈ findings, gap.Spans (.int 45))
      ∧ ¬ ∃ gap ∈ findings, gap.Spans (.int 60) := by
  have hwhole : ∀ band ∈ scattered, band.IsWhole := by decide +kernel
  have hbegin : ∀ band ∈ scattered, band.min.le 100 = true := by decide +kernel
  obtain ⟨hreturns, -, hreport⟩ := coverage_reports_unlabelled (List.cons_ne_nil _ _) hwhole
  obtain ⟨findings, hfindings⟩ := hreturns.mpr fun band hband p hmin hp => by
    have hle : p + 1 ≤ 100 := Number.int_le_int.mp (hmin ▸ hbegin band hband)
    have hlarge : (100 : Int) < firstTooLarge := by decide +kernel
    omega
  obtain ⟨hgap, -⟩ := hreport findings hfindings
  refine ⟨findings, hfindings, (hgap 25 (by decide)).mp ?_, (hgap 45 (by decide)).mp ?_,
    fun hspans => ?_⟩
  · decide +kernel
  · decide +kernel
  · have hnone := (hgap 60 (by decide)).mpr hspans
    revert hnone
    decide +kernel

/-- A gap of which the end has no text is not reported. -/
theorem Audit.coverage_remote :
    coverage [remote] = .error .outOfRange ∧ remote.IsWhole
      ∧ ScoreBand.resolve? [remote] (.int 0) = none := by
  refine ⟨by decide +kernel, ⟨⟨_, rfl⟩, _, rfl⟩, by decide +kernel⟩

end Questionnaire
