import HtmlComponents.Proofs.Text.Letters
import HtmlComponents.Proofs.Text.Pieces
import HtmlComponents.Text.Words

/-!
# Words of printable ASCII identifiers

In printable ASCII each character is a cluster of its own (`Cluster.split_printable`) and lower case goes character
by character (`Case.lower_ascii`). So the words of such an identifier have its characters, in lower case and
without the separators (`Words.mem_kebab`), and the first of them stays the first (`Words.kebab_eq_cons`).
-/

namespace HtmlComponents.Text

/-- Whether a character is an ASCII character and no control character. -/
def isPrintable (c : Char) : Bool := 0x20 ≤ c.toNat && c.toNat < 0x7F

variable {c d : Char} {text : List Char}

theorem isPrintable_iff : isPrintable c = true ↔ 0x20 ≤ c.toNat ∧ c.toNat < 0x7F := by
  simp [isPrintable]

/-! ### Clusters -/

namespace Cluster

theorem role_printable (hc : isPrintable c = true) : role c = .other := by
  obtain ⟨hlow, hhigh⟩ := isPrintable_iff.mp hc
  have hreturn : c ≠ '\r' := by
    rintro rfl
    exact absurd hlow (by decide)
  have hfeed : c ≠ '\n' := by
    rintro rfl
    exact absurd hlow (by decide)
  rw [role, if_neg hreturn, if_neg hfeed, if_neg (by omega), if_pos hhigh]

theorem joins_printable (hd : isPrintable d = true) (hc : isPrintable c = true) (before : Cluster) :
    joins (d :: before) c = false := by
  have hhigh := (isPrintable_iff.mp hc).2
  have hpictograph : isPictograph c = false := by simp [isPictograph]; omega
  have hconsonant : isConsonant c = false := by simp [isConsonant]; omega
  simp [joins, role_printable hd, role_printable hc, hpictograph, hconsonant]

theorem splitFrom_printable (hd : isPrintable d = true) (h : ∀ c ∈ text, isPrintable c = true) :
    splitFrom [d] text = [d] :: text.map ([·]) := by
  induction text generalizing d with
  | nil => rfl
  | cons c rest ih =>
    obtain ⟨hc, hrest⟩ := List.forall_mem_cons.mp h
    rw [splitFrom, joins_printable hd hc, if_neg (by simp), ih hc hrest]
    rfl

/-- Each printable ASCII character is a cluster of its own. -/
theorem split_printable (h : ∀ c ∈ text, isPrintable c = true) : split text = text.map ([·]) := by
  cases text with
  | nil => rfl
  | cons c rest =>
    obtain ⟨hc, hrest⟩ := List.forall_mem_cons.mp h
    exact splitFrom_printable hc hrest

end Cluster

/-! ### Lower case -/

namespace Case

theorem lowerFrom_ascii (h : ∀ c ∈ text, c.toNat < 0x80) (before : List Char) :
    lowerFrom before text = text.map Char.toLower := by
  induction text generalizing before with
  | nil => rfl
  | cons c rest ih =>
    obtain ⟨hc, hrest⟩ := List.forall_mem_cons.mp h
    have hsigma : c ≠ 'Σ' := by
      rintro rfl
      exact absurd hc (by decide)
    rw [lowerFrom, if_neg hsigma, lowerChar, if_pos hc, ih hrest]
    rfl

theorem lower_ascii (h : ∀ c ∈ text, c.toNat < 0x80) : lower text = text.map Char.toLower :=
  lowerFrom_ascii h []

end Case

/-! ### Words -/

namespace Words

theorem mem_splitFrom {before : Option Cluster} {word w : List Char} {clusters : List Cluster}
    (hw : w ∈ splitFrom before word clusters) (hc : c ∈ w) :
    c ∈ word ∨ ∃ cluster ∈ clusters, isSeparator cluster = false ∧ c ∈ cluster := by
  fun_induction splitFrom before word clusters with
  | case1 =>
    obtain rfl := List.mem_singleton.mp hw
    exact .inl hc
  | case2 before word here rest hseparator ih =>
    rcases List.mem_cons.mp hw with rfl | hw
    · exact .inl hc
    · rcases ih hw with hnil | ⟨cluster, hcluster, hmem⟩
      · cases hnil
      · exact .inr ⟨cluster, List.mem_cons_of_mem _ hcluster, hmem⟩
  | case3 before word here rest hseparator hstarts ih =>
    rcases List.mem_cons.mp hw with rfl | hw
    · exact .inl hc
    · rcases ih hw with hhere | ⟨cluster, hcluster, hmem⟩
      · exact .inr ⟨here, List.mem_cons_self, by simpa using hseparator, hhere⟩
      · exact .inr ⟨cluster, List.mem_cons_of_mem _ hcluster, hmem⟩
  | case4 before word here rest hseparator hstarts ih =>
    rcases ih hw with hword | ⟨cluster, hcluster, hmem⟩
    · rcases List.mem_append.mp hword with hword | hhere
      · exact .inl hword
      · exact .inr ⟨here, List.mem_cons_self, by simpa using hseparator, hhere⟩
    · exact .inr ⟨cluster, List.mem_cons_of_mem _ hcluster, hmem⟩

theorem splitFrom_eq_cons (before : Option Cluster) (word : List Char) (clusters : List Cluster) :
    ∃ more others, splitFrom before word clusters = (word ++ more) :: others := by
  fun_induction splitFrom before word clusters with
  | case1 before word => exact ⟨[], [], by simp⟩
  | case2 before word here rest => exact ⟨[], _, by rw [List.append_nil]⟩
  | case3 before word here rest => exact ⟨[], _, by rw [List.append_nil]⟩
  | case4 before word here rest _ _ ih =>
    obtain ⟨more, others, heq⟩ := ih
    exact ⟨here ++ more, others, by rw [heq, List.append_assoc]⟩

theorem mem_split {w : List Char} (h : ∀ c ∈ text, isPrintable c = true) (hw : w ∈ split text) (hc : c ∈ w) :
    c ∈ text ∧ isSeparator [c] = false := by
  rw [split, Cluster.split_printable h] at hw
  rcases mem_splitFrom (List.mem_of_mem_filter hw) hc with hnil | ⟨cluster, hcluster, hseparator, hmem⟩
  · cases hnil
  · obtain ⟨d, hd, rfl⟩ := List.mem_map.mp hcluster
    obtain rfl := List.mem_singleton.mp hmem
    exact ⟨hd, hseparator⟩

theorem split_eq_cons (h : ∀ c ∈ d :: text, isPrintable c = true) (hd : isSeparator [d] = false) :
    ∃ more others, split (d :: text) = (d :: more) :: others := by
  have hread : splitFrom none [] (Cluster.split (d :: text)) = splitFrom (some [d]) [d] (text.map ([·])) := by
    rw [Cluster.split_printable h, List.map_cons, splitFrom, hd]
    rfl
  obtain ⟨more, others, heq⟩ := splitFrom_eq_cons (some [d]) [d] (text.map ([·]))
  exact ⟨more, _, by rw [split, hread, heq]; rfl⟩

theorem map_lower_split (h : ∀ c ∈ text, isPrintable c = true) :
    (split text).map Case.lower = (split text).map (List.map Char.toLower) := by
  refine List.map_congr_left fun w hw => Case.lower_ascii fun c hc => ?_
  have := (isPrintable_iff.mp (h c (mem_split h hw hc).1)).2
  omega

/-- The characters of kebab case: hyphens, and what is written in lower case. -/
theorem mem_kebab {name : String} (h : ∀ c ∈ name.toList, isPrintable c = true)
    (hc : c ∈ (kebab name).toList) :
    c = '-' ∨ ∃ d ∈ name.toList, isSeparator [d] = false ∧ c = d.toLower := by
  rw [kebab, String.toList_ofList, map_lower_split h] at hc
  rcases mem_intercalate hc with hsep | ⟨w, hw, hmem⟩
  · exact .inl (List.mem_singleton.mp hsep)
  · obtain ⟨v, hv, rfl⟩ := List.mem_map.mp hw
    obtain ⟨d, hd, rfl⟩ := List.mem_map.mp hmem
    obtain ⟨hname, hseparator⟩ := mem_split h hv hd
    exact .inr ⟨d, hname, hseparator, rfl⟩

theorem kebab_eq_cons {name : String} (h : ∀ c ∈ name.toList, isPrintable c = true)
    (hname : name.toList = d :: text) (hd : isSeparator [d] = false) :
    ∃ more, (kebab name).toList = d.toLower :: more := by
  obtain ⟨more, others, heq⟩ := split_eq_cons (hname ▸ h) hd
  rw [kebab, String.toList_ofList, map_lower_split h, hname, heq, List.map_cons, List.map_cons]
  cases others with
  | nil => exact ⟨_, by rw [List.map_nil, List.intercalate_singleton]⟩
  | cons next others =>
    exact ⟨_, by rw [List.map_cons, List.intercalate_cons_cons, List.append_assoc, List.cons_append]⟩

end Words

end HtmlComponents.Text
