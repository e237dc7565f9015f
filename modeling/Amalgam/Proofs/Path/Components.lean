import Amalgam.Proofs.Path.Clean

/-!
# Components

A path that lies within a directory has at least the components of the directory.
So these can be stripped from it, and every header has a label.
-/

namespace Amalgam

namespace Path

variable {p base : Path}

theorem components_congr {q : Path} (h : p.clean = q.clean) : p.components = q.components := by
  rw [components, components, h]

theorem componentCount_le_length (p : Path) : p.componentCount ≤ p.components.length := by
  rw [componentCount]
  split
  · exact Nat.zero_le _
  · exact Nat.le_refl _

theorem components_of_below {rest : List Char}
    (h : p.clean.toList = base.clean.toList ++ '/' :: rest) :
    p.components = base.components ++ (Text.splitChars '/' rest).filter (· ≠ []) := by
  rw [components, h, Text.splitChars_append_sep, List.filter_append, ← components]

theorem componentCount_le_of_isWithin (h : p.isWithin base = true) :
    base.componentCount ≤ p.components.length := by
  rw [isWithin] at h
  split at h
  next htop => simp [componentCount, htop]
  next =>
    split at h
    next htop =>
      have hnone : base.components = [] := by rw [components, htop]; decide
      simp [componentCount, hnone]
    next =>
      refine Nat.le_trans (componentCount_le_length base) ?_
      rcases Bool.or_eq_true_iff.mp h with heq | hbelow
      · have hsame := components_congr (eq_of_beq heq)
        exact Nat.le_of_eq (congrArg List.length hsame.symm)
      · obtain ⟨rest, hrest⟩ := List.isPrefixOf_iff_prefix.mp hbelow
        rw [List.append_assoc, List.singleton_append] at hrest
        rw [components_of_below hrest.symm, List.length_append]
        exact Nat.le_add_right _ _

end Path

theorem MarkerStyle.exists_label (style : MarkerStyle) (includeDir header : Path) :
    ∃ label, style.label includeDir header = .ok label := by
  rw [label]
  split
  next h =>
    have hle := Path.componentCount_le_of_isWithin h.2
    exact ⟨_, by rw [Path.stripComponents, if_neg (Nat.not_lt.mpr hle)]⟩
  next => exact ⟨header, rfl⟩

end Amalgam
