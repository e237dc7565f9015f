import Amalgam.Proofs.Path.Clean
import Amalgam.Proofs.Plan.Failure
import Amalgam.Proofs.Plan.Includes

/-!
# Inliners that see the same

What becomes of a root depends on what its lines ask for, on the contents of the
headers that it reaches, and on the labels of headers. Two inliners that agree on
these give the same plan and the same unit, or fail in the same way. So neither
the spelling of the include directory matters nor anything that could be read
beyond the headers that the root reaches.
-/

namespace Amalgam

-- ---------------------------------------------------------------------------
-- Walks
-- ---------------------------------------------------------------------------

section Walks

variable {reader reader' : Reader} {ex : Exclusion} {rootDir rootDir' : Path} {source : String}

/-- Two walks go alike over lines that ask both for the same, as long as the
readers agree on the headers that are met. -/
theorem Descends.agree {label : String} {dir dir' : Path} {lines : List String} {t : Trail}
    {r : Except Unreadable Trail} (h : Descends reader ex label dir lines t r)
    (hread : ∀ header, Reach reader ex rootDir source header →
      reader'.read header = reader.read header)
    (hasks : ∀ line ∈ lines, directive ex dir' line = directive ex dir line)
    (hreach : ∀ line ∈ lines, ∀ target, directive ex dir line = .follow target →
      Reach reader ex rootDir source target) :
    Descends reader' ex label dir' lines t r := by
  induction h generalizing dir' with
  | done => exact .done
  | text hd _ ih =>
    obtain ⟨hline, hasks⟩ := List.forall_mem_cons.mp hasks
    exact .text (hline.trans hd) (ih hasks (List.forall_mem_cons.mp hreach).2)
  | lift hd _ ih =>
    obtain ⟨hline, hasks⟩ := List.forall_mem_cons.mp hasks
    exact .lift (hline.trans hd) (ih hasks (List.forall_mem_cons.mp hreach).2)
  | known hd hv _ ih =>
    obtain ⟨hline, hasks⟩ := List.forall_mem_cons.mp hasks
    exact .known (hline.trans hd) hv (ih hasks (List.forall_mem_cons.mp hreach).2)
  | unreadable hd hv hr =>
    obtain ⟨hline, -⟩ := List.forall_mem_cons.mp hasks
    have htarget := hreach _ List.mem_cons_self _ hd
    exact .unreadable (hline.trans hd) hv ((hread _ htarget).trans hr)
  | stuck hd hv hr _ ih =>
    obtain ⟨hline, -⟩ := List.forall_mem_cons.mp hasks
    have htarget := hreach _ List.mem_cons_self _ hd
    -- inside a header both walks resolve against the header's own directory
    have hkids := ih (fun _ _ => rfl) fun line hm target ht => .step htarget ⟨_, hr, line, hm, ht⟩
    exact .stuck (hline.trans hd) hv ((hread _ htarget).trans hr) hkids
  | enter hd hv hr _ _ ihk ihr =>
    obtain ⟨hline, hasks⟩ := List.forall_mem_cons.mp hasks
    have htarget := hreach _ List.mem_cons_self _ hd
    have hkids := ihk (fun _ _ => rfl) fun line hm target ht => .step htarget ⟨_, hr, line, hm, ht⟩
    exact .enter (hline.trans hd) hv ((hread _ htarget).trans hr) hkids
      (ihr hasks (List.forall_mem_cons.mp hreach).2)

theorem extract_agree
    (hread : ∀ header, Reach reader ex rootDir source header →
      reader'.read header = reader.read header)
    (hasks : ∀ line, directive ex rootDir' line = directive ex rootDir line) :
    extract reader' ex rootDir' source = extract reader ex rootDir source := by
  have hdesc := descends_descend reader ex rootLabel rootDir (Text.lines source) {}
  have hdesc' := hdesc.agree hread (fun line _ => hasks line)
    fun line hm target ht => .root ⟨line, hm, ht⟩
  rw [extract_of_descends hdesc, extract_of_descends hdesc']

end Walks

-- ---------------------------------------------------------------------------
-- Plans and units
-- ---------------------------------------------------------------------------

namespace Inliner

/-- The other inliner differs in nothing that the root brings to bear. -/
structure Agrees (inl other : Inliner) (source : String) : Prop where
  exclusion : other.exclusion = inl.exclusion
  asks : ∀ line, other.asks line = inl.asks line
  label : ∀ header, other.style.label other.includeDir header = inl.style.label inl.includeDir header
  read : ∀ header, inl.Reaches source header → other.reader.read header = inl.reader.read header

namespace Agrees

variable {inl other : Inliner} {source : String}

theorem extract_eq (h : inl.Agrees other source) :
    extract other.reader other.exclusion other.includeDir source =
      extract inl.reader inl.exclusion inl.includeDir source := by
  have hasks := h.asks
  simp only [Inliner.asks, h.exclusion] at hasks
  rw [h.exclusion]
  exact extract_agree h.read hasks

theorem layout_eq (h : inl.Agrees other source) : other.layout source = inl.layout source := by
  simp only [layout, Layout.scan, h.asks]

theorem planOf_eq (h : inl.Agrees other source) (x : Extraction) :
    other.planOf source x = inl.planOf source x := by
  simp only [planOf, h.layout_eq, Layout.lifted, h.asks]

theorem plan_eq (h : inl.Agrees other source) : other.plan source = inl.plan source := by
  rw [plan, plan, result_walk, result_walk, h.extract_eq]
  simp only [h.planOf_eq]

theorem blocks_eq (h : inl.Agrees other source) (x : Extraction) (headers : List Path) :
    other.blocks x headers = inl.blocks x headers := by
  induction headers with
  | nil => rfl
  | cons header headers ih => rw [blocks, blocks, block, block, h.label, ih]

theorem inline_eq (h : inl.Agrees other source) : other.inline source = inl.inline source := by
  rw [inline, inline, h.plan_eq]
  simp only [render, h.blocks_eq, h.layout_eq, assemble, Layout.interlude, h.asks]

theorem of_clean (h : inl.includeDir ≠ "") :
    inl.Agrees { inl with includeDir := inl.includeDir.clean } source where
  exclusion := rfl
  asks line := by simp only [Inliner.asks, directive, Path.clean_join h]
  label header := by
    simp only [MarkerStyle.label, Path.isWithin_clean, Path.componentCount_clean]
  read _ _ := rfl

theorem of_read {reader : Reader}
    (h : ∀ header, inl.Reaches source header → reader.read header = inl.reader.read header) :
    inl.Agrees { inl with reader } source :=
  ⟨rfl, fun _ => rfl, fun _ => rfl, h⟩

theorem of_find? {s s' : Store} (hs : inl.reader = s.reader)
    (h : ∀ path, s'.find? path ≠ s.find? path → ¬ inl.Reaches source path) :
    inl.Agrees { inl with reader := s'.reader } source := by
  refine of_read fun header hreach => ?_
  have hfind : s'.find? header = s.find? header := not_imp_not.mp (h header) hreach
  rw [hs]
  simp only [Store.reader, Store.read, hfind]

end Agrees

variable (inl : Inliner) (source : String)

/-- Plans and units are the same for an include directory as for its cleaned path. -/
theorem includeDir_spelling (h : inl.includeDir ≠ "") :
    ({ inl with includeDir := inl.includeDir.clean } : Inliner).plan source = inl.plan source ∧
    ({ inl with includeDir := inl.includeDir.clean } : Inliner).inline source =
      inl.inline source := by
  have hagrees : inl.Agrees { inl with includeDir := inl.includeDir.clean } source := .of_clean h
  exact ⟨hagrees.plan_eq, hagrees.inline_eq⟩

theorem includeDir_spelling_diamond :
    Path.clean "./inc//sub/.." = "inc" ∧
    ({ diamond with includeDir := "./inc//sub/.." } : Inliner).plan "#include \"a.h\"" =
      .ok Plan.diamond := by
  have hclean : Path.clean "./inc//sub/.." = "inc" := by decide +kernel
  have hplan := (includeDir_spelling { diamond with includeDir := "./inc//sub/.." }
    "#include \"a.h\"" (by decide)).1
  simp only [hclean] at hplan
  exact ⟨hclean, hplan.symm.trans Plan.plan_diamond⟩

/-- Readers that agree on the headers that the root reaches give the same plan and
the same unit, or the same error. So files may come, change and go wherever the
root does not reach. -/
theorem unreached_files_irrelevant :
    (∀ reader : Reader,
      (∀ header, inl.Reaches source header → reader.read header = inl.reader.read header) →
      ({ inl with reader } : Inliner).plan source = inl.plan source ∧
      ({ inl with reader } : Inliner).inline source = inl.inline source) ∧
    ∀ s s' : Store, inl.reader = s.reader →
      (∀ path, s'.find? path ≠ s.find? path → ¬ inl.Reaches source path) →
      ({ inl with reader := s'.reader } : Inliner).plan source = inl.plan source ∧
      ({ inl with reader := s'.reader } : Inliner).inline source = inl.inline source := by
  refine ⟨fun reader hread => ?_, fun s s' hs hfind => ?_⟩
  · have hagrees : inl.Agrees { inl with reader } source := .of_read hread
    exact ⟨hagrees.plan_eq, hagrees.inline_eq⟩
  · have hagrees : inl.Agrees { inl with reader := s'.reader } source := .of_find? hs hfind
    exact ⟨hagrees.plan_eq, hagrees.inline_eq⟩

def stray : Store :=
  ⟨[("inc/a.h", "int a;\n"), ("inc/b.h", "#include \"gone.h\"\n")]⟩

def tidied : Store :=
  ⟨[("inc/a.h", "int a;\n"), ("inc/c.h", "#include \"a.h\"\n")]⟩

def strayed : Inliner where
  includeDir := "inc"
  style := .relative
  reader := stray.reader

def strayedPlan : Plan where
  order := ["inc/a.h"]
  includes := []
  extraction :=
    { edges := [⟨"<root>", "inc/a.h"⟩]
      sources := [("inc/a.h", "int a;\n")] }

theorem unreached_files_strayed :
    tidied.find? "inc/b.h" ≠ stray.find? "inc/b.h" ∧
    tidied.find? "inc/c.h" ≠ stray.find? "inc/c.h" ∧
    ({ strayed with reader := tidied.reader } : Inliner).inline "#include \"a.h\"\nint main();" =
      .ok "// BEGIN a.h\nint a;\n// END a.h\nint main();" := by
  have hplan : strayed.plan "#include \"a.h\"\nint main();" = .ok strayedPlan := by decide +kernel
  have hunit : strayed.inline "#include \"a.h\"\nint main();" =
      .ok "// BEGIN a.h\nint a;\n// END a.h\nint main();" := by
    rw [inline, hplan]
    decide +kernel
  have hfind : ∀ path, tidied.find? path ≠ stray.find? path →
      ¬ strayed.Reaches "#include \"a.h\"\nint main();" path := by
    intro path hne hreach
    obtain ⟨f, hspans⟩ := Plan.exists_spans hplan
    obtain rfl : path = "inc/a.h" := by simpa [strayedPlan] using hspans.mem_order.mpr hreach
    exact hne (by decide +kernel)
  refine ⟨by decide +kernel, by decide +kernel, ?_⟩
  exact ((unreached_files_irrelevant strayed _).2 stray tidied rfl hfind).2.trans hunit

end Inliner

end Amalgam
