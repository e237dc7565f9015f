import Amalgam.Proofs.Path.Strip
import Amalgam.Proofs.Plan.Order

/-!
# Labels name their headers

The label of a header within the include directory is the way from the directory
to the header, so joining the two gives the header back. A header that lies
elsewhere keeps its path. Where the include directory is rooted, paths begin with
a slash and ways do not, so no two headers of a plan share a label.
-/

namespace Amalgam

theorem MarkerStyle.label_cases (style : MarkerStyle) (includeDir header : Path) :
    (∃ way : Path, style.label includeDir header = .ok way ∧ way.isRooted = false ∧
      includeDir.join way = header.clean) ∨
    style.label includeDir header = .ok header := by
  rw [label]
  split
  next h =>
    obtain ⟨way, hstrip, hrelative, hjoin⟩ := Path.join_stripComponents h.2
    exact .inl ⟨way, hstrip, hrelative, hjoin⟩
  next => exact .inr rfl

theorem MarkerStyle.label_injective {style : MarkerStyle} {includeDir header other : Path}
    (hheader : header.clean = header) (hother : other.clean = other)
    (hrooted : header.isRooted = true) (hrooted' : other.isRooted = true)
    (h : style.label includeDir header = style.label includeDir other) : header = other := by
  rcases style.label_cases includeDir header with ⟨way, hl, hrelative, hjoin⟩ | hl <;>
    rcases style.label_cases includeDir other with ⟨way', hl', hrelative', hjoin'⟩ | hl' <;>
    rw [hl, hl'] at h
  -- both ways lead from the one directory
  · cases h
    rw [← hheader, ← hjoin, hjoin', hother]
  -- a way is relative, and neither header is
  · cases h
    simp [hrelative] at hrooted'
  · cases h
    simp [hrelative'] at hrooted
  · exact Except.ok.inj h

namespace Inliner

variable {inl : Inliner} {source : String} {plan : Plan} {header other : Path}

theorem label_ne (hdir : inl.includeDir.isRooted = true) (hplan : inl.plan source = .ok plan)
    (hheader : header ∈ plan.order) (hother : other ∈ plan.order) (hne : header ≠ other)
    (style : MarkerStyle) :
    style.label inl.includeDir header ≠ style.label inl.includeDir other := by
  obtain ⟨f, hspans⟩ := Plan.exists_spans hplan
  have hdir' : inl.includeDir ≠ "" := fun e => by simp [e, Path.isRooted] at hdir
  have hreach := hspans.mem_order.mp hheader
  have hreach' := hspans.mem_order.mp hother
  intro h
  refine hne (MarkerStyle.label_injective (hreach.clean_eq hdir') (hreach'.clean_eq hdir') ?_ ?_ h)
  · rw [hreach.isRooted hdir', hdir]
  · rw [hreach'.isRooted hdir', hdir]

/-- A header within the include directory has the way there as label, every header
has a label, and so inlining fails exactly as planning does. Below a rooted include
directory no two headers of a plan have one label. -/
theorem labels_identify_headers (inl : Inliner) (source : String) :
    (∀ includeDir header : Path, header.isWithin includeDir = true →
      ∃ label, header.stripComponents includeDir.componentCount = .ok label ∧
        includeDir.join label = header.clean) ∧
    (∀ style : MarkerStyle, ∀ includeDir header : Path,
      ∃ label, style.label includeDir header = .ok label) ∧
    (∀ err, inl.inline source = .error err ↔ inl.plan source = .error err) ∧
    (∀ e, inl.inline source ≠ .error (.marker e)) ∧
    (∀ plan, inl.includeDir.isRooted = true → inl.plan source = .ok plan →
      ∀ header ∈ plan.order, ∀ other ∈ plan.order, header ≠ other →
        ∀ style : MarkerStyle,
          style.label inl.includeDir header ≠ style.label inl.includeDir other) := by
  refine ⟨?_, fun style => style.exists_label, fun _ => inline_eq_error, ?_, ?_⟩
  · intro includeDir header h
    obtain ⟨label, hstrip, -, hjoin⟩ := Path.join_stripComponents h
    exact ⟨label, hstrip, hjoin⟩
  · intro e he
    rw [inline_eq_error, plan_eq_error] at he
    rcases he with ⟨_, _, he⟩ | ⟨_, _, _, _, he⟩ <;> cases he
  · intro plan hdir hplan header hheader other hother hne style
    exact label_ne hdir hplan hheader hother hne style

def namesakes : Inliner where
  includeDir := "/inc"
  style := .relative
  reader := Store.reader ⟨[("/inc/x.h", "#include \"../x.h\""), ("/x.h", "int x;")]⟩

def namesakesPlan : Plan where
  order := ["/x.h", "/inc/x.h"]
  includes := []
  extraction :=
    { edges := [⟨"<root>", "/inc/x.h"⟩, ⟨"/inc/x.h", "/x.h"⟩]
      sources := [("/inc/x.h", "#include \"../x.h\""), ("/x.h", "int x;")] }

theorem labels_identify_namesakes :
    (∃ label, Path.stripComponents "/inc/x.h" (Path.componentCount "/inc") = .ok label ∧
      Path.join "/inc" label = Path.clean "/inc/x.h") ∧
    MarkerStyle.relative.label "/inc" "/x.h" ≠ MarkerStyle.relative.label "/inc" "/inc/x.h" := by
  obtain ⟨hstrip, -, -, -, hdistinct⟩ := labels_identify_headers namesakes "#include \"x.h\""
  have hplan : namesakes.plan "#include \"x.h\"" = .ok namesakesPlan := by decide +kernel
  refine ⟨hstrip _ _ (by decide +kernel), ?_⟩
  exact hdistinct _ (by decide +kernel) hplan "/x.h" (by decide) "/inc/x.h" (by decide) (by decide)
    .relative

end Inliner

end Amalgam
