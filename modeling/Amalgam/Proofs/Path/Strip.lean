import Amalgam.Proofs.Path.Within

/-!
# Counting and stripping

A path has as many components as its route has segments. Stripping takes them off the
front of the clean text, and what is left walks the rest of the route; so as many as
are counted can be stripped, and no more. Only a path that cleans to `.` differs: it
counts no component, yet its text holds one that can be stripped.
-/

namespace Amalgam.Path

variable {p base rel : Path} {n : Nat}

-- ---------------------------------------------------------------------------
-- Counting
-- ---------------------------------------------------------------------------

theorem clean_eq_dot : p.clean = "." ↔ p.route = [] ∧ p.isRooted = false := by
  constructor
  · intro h
    rw [← route_clean, ← isRooted_clean, h]
    decide +kernel
  · rintro ⟨hroute, hrelative⟩
    simp [clean_of_route_eq_nil hroute, hrelative]

theorem componentCount_eq (p : Path) : p.componentCount = p.route.length := by
  unfold componentCount
  split
  next hdot => simp [(clean_eq_dot.mp hdot).1]
  next hdot =>
    by_cases hroute : p.route = []
    · have hrooted : p.isRooted = true := by
        simpa [clean_eq_dot, hroute] using hdot
      simp [components_of_route_eq_nil hroute, hroute, hrooted]
    · rw [components_of_route_ne_nil hroute]

theorem length_components (h : p.clean ≠ ".") : p.components.length = p.componentCount := by
  simp [componentCount, h]

theorem components_of_clean_eq_dot (h : p.clean = ".") : p.components = [dot] := by
  obtain ⟨hroute, hrelative⟩ := clean_eq_dot.mp h
  simp [components_of_route_eq_nil hroute, hrelative]

-- ---------------------------------------------------------------------------
-- Stripping
-- ---------------------------------------------------------------------------

theorem stripComponents_eq_ok :
    p.stripComponents n = .ok rel ↔
      n ≤ p.components.length ∧ rel = String.ofList (Text.joinChars '/' (p.components.drop n)) := by
  unfold stripComponents
  split
  next h => simp [Nat.not_le.mpr h]
  next h => simp [Nat.not_lt.mp h, eq_comm]

theorem stripComponents_eq_error {e : StripError} :
    p.stripComponents n = .error e ↔
      p.components.length < n ∧ e = ⟨p, n, p.components.length⟩ := by
  unfold stripComponents
  split
  next h => simp [h, eq_comm]
  next h => simp [h]

theorem exists_stripComponents_iff :
    (∃ rel, p.stripComponents n = .ok rel) ↔ n ≤ p.components.length := by
  simp [stripComponents_eq_ok]

theorem route_stripComponents (h : p.stripComponents n = .ok rel) :
    rel.isRooted = false ∧ rel.route = p.route.drop n := by
  obtain ⟨-, rfl⟩ := stripComponents_eq_ok.mp h
  by_cases hroute : p.route = []
  · -- the path is `/` or `.`, and nothing or a dot is left
    have hleft : p.components.drop n = [] ∨ p.components.drop n = [dot] := by
      rw [components_of_route_eq_nil hroute]
      cases p.isRooted <;> cases n <;> simp
    rcases hleft with hleft | hleft <;> rw [hleft, hroute, List.drop_nil] <;> decide +kernel
  · rw [components_of_route_ne_nil hroute]
    exact route_joinChars_of_append (List.take_append_drop n p.route).symm

theorem componentCount_stripComponents (h : p.stripComponents n = .ok rel) :
    rel.componentCount = p.componentCount - n := by
  rw [componentCount_eq, componentCount_eq, (route_stripComponents h).2, List.length_drop]

theorem exists_stripComponents (h : p.isWithin base = true) :
    ∃ rel : Path, p.stripComponents base.componentCount = .ok rel ∧ rel.isRooted = false ∧
      p.route = base.route ++ rel.route ∧ (base ≠ "" ∨ rel ≠ "") := by
  obtain ⟨hrooted, rest, hroute, -⟩ := isWithin_iff_route.mp h
  obtain ⟨rel, hstrip⟩ := exists_stripComponents_iff.mpr (componentCount_le_of_isWithin h)
  obtain ⟨hrelative, hrest⟩ := route_stripComponents hstrip
  have hsplit : p.route = base.route ++ rel.route := by
    rw [hrest, componentCount_eq, hroute, List.drop_left]
  refine ⟨rel, hstrip, hrelative, hsplit, Decidable.not_and_iff_not_or_not.mp ?_⟩
  rintro ⟨rfl, rfl⟩
  -- nothing would be left of `.` although nothing is stripped
  have hdot : p.clean = "." := clean_eq_dot.mpr ⟨hsplit.trans (by decide +kernel), hrooted⟩
  rw [stripComponents_eq_ok, components_of_clean_eq_dot hdot] at hstrip
  exact absurd hstrip.2 (by decide +kernel)

theorem join_stripComponents (h : p.isWithin base = true) :
    ∃ rel : Path, p.stripComponents base.componentCount = .ok rel ∧ rel.isRooted = false ∧
      base.join rel = p.clean := by
  obtain ⟨rel, hstrip, hrelative, hroute, hne⟩ := exists_stripComponents h
  have hrooted := (isWithin_iff_route.mp h).1
  exact ⟨rel, hstrip, hrelative, join_of_route hne hrelative hrooted hroute⟩

-- ---------------------------------------------------------------------------
-- Agreement
-- ---------------------------------------------------------------------------

/-- Stripping fails exactly if more is asked for than is counted, and says how much
that is, unless the path cleans to `.`: of that one component can be stripped, though
none is counted. What is left always counts as many components less as were stripped. -/
theorem strip_by_count (p : Path) (n : Nat) :
    (p.clean ≠ "." →
      ((∃ rel, p.stripComponents n = .ok rel) ↔ n ≤ p.componentCount) ∧
      ∀ e, p.stripComponents n = .error e ↔
        p.componentCount < n ∧ e = ⟨p, n, p.componentCount⟩) ∧
    (p.clean = "." →
      p.componentCount = 0 ∧
      ((∃ rel, p.stripComponents n = .ok rel) ↔ n ≤ 1) ∧
      ∀ e, p.stripComponents n = .error e ↔ 1 < n ∧ e = ⟨p, n, 1⟩) ∧
    ∀ rel, p.stripComponents n = .ok rel → rel.componentCount = p.componentCount - n := by
  refine ⟨?_, ?_, fun _ => componentCount_stripComponents⟩
  · intro hdot
    rw [exists_stripComponents_iff, ← length_components hdot]
    exact ⟨Iff.rfl, fun _ => stripComponents_eq_error⟩
  · intro hdot
    have hlength : p.components.length = 1 := by simp [components_of_clean_eq_dot hdot]
    rw [exists_stripComponents_iff, ← hlength]
    exact ⟨by simp [componentCount, hdot], Iff.rfl, fun _ => stripComponents_eq_error⟩

theorem strip_by_count_climbing :
    clean "x/../../a//b" ≠ "." ∧
    stripComponents "x/../../a//b" 4 = .error ⟨"x/../../a//b", 4, 3⟩ ∧
    (∃ rel, stripComponents "x/../../a//b" 2 = .ok rel ∧ rel.componentCount = 1) ∧
    clean "x/.." = "." ∧ stripComponents "x/.." 2 = .error ⟨"x/..", 2, 1⟩ := by
  have hclean : clean "x/../../a//b" ≠ "." := by decide +kernel
  have hdot : clean "x/.." = "." := by decide +kernel
  have hcount : componentCount "x/../../a//b" = 3 := by decide +kernel
  obtain ⟨-, herror⟩ := (strip_by_count "x/../../a//b" 4).1 hclean
  obtain ⟨hok, -⟩ := (strip_by_count "x/../../a//b" 2).1 hclean
  obtain ⟨-, -, hdotted⟩ := (strip_by_count "x/.." 2).2.1 hdot
  rw [hcount] at herror hok
  obtain ⟨rel, hrel⟩ := hok.mpr (by decide)
  have hleft := (strip_by_count "x/../../a//b" 2).2.2 rel hrel
  rw [hcount] at hleft
  exact ⟨hclean, (herror _).mpr ⟨by decide, rfl⟩, ⟨rel, hrel, hleft⟩, hdot,
    (hdotted _).mpr ⟨by decide, rfl⟩⟩

/-- A component is stripped from a path that has none, and where stripping fails it
reports one component too many. -/
theorem strip_uncounted :
    componentCount "." = 0 ∧ stripComponents "." 1 = .ok "" ∧
    componentCount "a/.." = 0 ∧ stripComponents "a/.." 2 = .error ⟨"a/..", 2, 1⟩ :=
  ⟨by decide +kernel, stripComponents_eq_ok.mpr (by decide +kernel), by decide +kernel,
    stripComponents_eq_error.mpr (by decide +kernel)⟩

end Amalgam.Path
