import WorkloadLogin.Config.Variables
import WorkloadLogin.Proofs.Text.Blank

/-! # The values of variables' texts

A text that opens no bracket and no quotation, and is no truth value and no number, stands for
itself. Every text has a quotation that stands for it.
-/
namespace WorkloadLogin.Variables
open Text
variable {cs rest : List Char} {v : Json} {s : String}

/-! ## Plain texts -/

/-- A text without blanks at its ends that does not look like a value of another kind. -/
structure Plain (s : String) : Prop where
  head : ∀ c ∈ s.toList.head?, isBlank c = false ∧ c ∉ ['\x7b','[','"']
  last : ∀ c ∈ s.toList.getLast?, isBlank c = false
  char : ∀ c, s.toList ≠ ['\'',c,'\'']
  truth : s ≠ "true" ∧ s ≠ "false"
  whole : wholeNumber? s.toList = none
  fraction : '.' ∈ s.toList → Numeral.parse? s.toList = none

theorem isBlank_of_isSpace {c : Char} (h : isSpace c = true) : isBlank c = true := by
  simp only [isSpace, Bool.or_eq_true, beq_iff_eq] at h
  rcases h with (((rfl | rfl) | rfl) | rfl) | rfl <;> rfl

theorem skipSpace_of_head (h : ∀ c ∈ cs.head?, isBlank c = false) : skipSpace cs = cs := by
  cases cs with
  | nil => rfl
  | cons c cs =>
    have hc : ¬ isSpace c = true := fun hspace =>
      Bool.noConfusion ((h c rfl).symm.trans (isBlank_of_isSpace hspace))
    simp [skipSpace, hc]

/-- A text whose last character is no blank does not end in spaces. -/
theorem eq_nil_of_skipSpace (h : ∀ c ∈ (cs ++ rest).getLast?, isBlank c = false)
    (hskip : skipSpace rest = []) : rest = [] := by
  have hspace : ∀ c ∈ rest, isSpace c = true := by
    have hall := List.takeWhile_append_dropWhile (p := isSpace) (l := rest)
    rw [show rest.dropWhile isSpace = [] from hskip, List.append_nil] at hall
    intro c hc
    exact of_mem_takeWhile (hall ▸ hc)
  cases hlast : rest.getLast? with
  | none => exact List.getLast?_eq_none_iff.mp hlast
  | some c =>
    have hblank := isBlank_of_isSpace (hspace c (List.mem_of_getLast? hlast))
    have hsolid := h c (by simp [List.getLast?_append, hlast])
    exact Bool.noConfusion (hsolid.symm.trans hblank)

theorem bare_of_plain (h : Plain s) : bare s.toList = .string s := by
  have htrim : trimBlank s.toList = s.toList :=
    Trims.trimWhere_eq ⟨⟨[],[],by simp,nofun,nofun⟩,fun c hc => (h.head c hc).1,h.last⟩
  simpa [bare, htrim, h.whole] using h.fraction

theorem parseValue_of_plain (h : Plain s) : parseValue s = .string s := by
  have hskip : skipSpace s.toList = s.toList := skipSpace_of_head fun c hc => (h.head c hc).1
  simp only [parseValue]
  split
  · rename_i v hread
    rw [Nat.add_succ, readValue, hskip] at hread
    obtain ⟨⟨u,rest⟩,hmatch,hv⟩ := Option.map_eq_some_iff.mp hread
    obtain ⟨rfl,hrest⟩ := Prod.mk.inj hv
    have hend : ∀ front, s.toList = front ++ rest → s.toList = front := by
      intro front hfront
      have hlast : ∀ c ∈ (front ++ rest).getLast?, isBlank c = false := hfront ▸ h.last
      obtain rfl := eq_nil_of_skipSpace hlast hrest
      rwa [List.append_nil] at hfront
    split at hmatch
    · rename_i cs hcs
      cases hmatch
      exact absurd (String.toList_inj.mp (hend "true".toList hcs)) h.truth.1
    · rename_i cs hcs
      cases hmatch
      exact absurd (String.toList_inj.mp (hend "false".toList hcs)) h.truth.2
    · rename_i cs hcs
      exact absurd (h.head '\x7b' (by simp [hcs])).2 (by decide)
    · rename_i cs hcs
      exact absurd (h.head '[' (by simp [hcs])).2 (by decide)
    · rename_i cs hcs
      exact absurd (h.head '"' (by simp [hcs])).2 (by decide)
    · rename_i c cs hcs
      cases hmatch
      exact absurd (hend ['\'',c,'\''] hcs) (h.char c)
    · cases hmatch
    · obtain ⟨rfl,rfl⟩ := Prod.mk.inj (Option.some.inj hmatch)
      have hsplit := List.prefix_iff_eq_append.mp
        (List.takeWhile_prefix (l := s.toList) fun c => !isSeparator c)
      rw [← hend _ hsplit.symm]
      exact bare_of_plain h
  · rfl

/-! ## Quoted texts -/

def quotedChar (c : Char) : List Char :=
  if c = '"' ∨ c = '\\' then ['\\',c]
  else if isControl c then ['\\','u','0','0',(c.toNat / 16).digitChar,(c.toNat % 16).digitChar]
  else [c]

/-- The text between quotation marks, with the marks, reverse solidi and controls in it escaped. -/
def quoted (s : String) : String := String.ofList ('"' :: s.toList.flatMap quotedChar ++ ['"'])

theorem hexChar?_digitChar : ∀ n < 128,
    hexChar? ['0','0',(n / 16).digitChar,(n % 16).digitChar] = some (Char.ofNat n) := by
  decide +kernel

theorem readQuoted_quotedChar (acc : List Char) (c : Char) (rest : List Char) :
    readQuoted acc (quotedChar c ++ rest) = readQuoted (c :: acc) rest := by
  unfold quotedChar
  split
  · rename_i hc
    rcases hc with rfl | rfl <;> simp [readQuoted, escape?]
  · rename_i hc
    rw [not_or] at hc
    split
    · rename_i hcontrol
      have hlt : c.toNat < 128 := by
        simp only [isControl, Bool.or_eq_true, Bool.and_eq_true, decide_eq_true_eq,
          beq_iff_eq] at hcontrol
        rcases hcontrol with ⟨hlow,-⟩ | rfl
        · omega
        · decide
      simp [readQuoted, hexChar?_digitChar _ hlt]
    · rename_i hcontrol
      rw [List.singleton_append, readQuoted]
      · simp [hcontrol]
      · exact hc.1
      · exact fun _ _ _ _ _ heq => absurd heq hc.2
      · exact fun _ _ _ _ _ _ _ _ _ heq => absurd heq hc.2
      · exact fun _ _ heq => absurd heq hc.2

theorem readQuoted_quoted (acc cs rest : List Char) :
    readQuoted acc (cs.flatMap quotedChar ++ '"' :: rest) =
      some (String.ofList (acc.reverse ++ cs),rest) := by
  induction cs generalizing acc with
  | nil => simp [readQuoted]
  | cons c cs ih =>
    rw [List.flatMap_cons, List.append_assoc, readQuoted_quotedChar, ih]
    simp

theorem parseValue_quoted (s : String) : parseValue (quoted s) = .string s := by
  have hread := readQuoted_quoted [] s.toList []
  simp only [parseValue, quoted, String.toList_ofList]
  rw [Nat.add_succ, readValue]
  simp [skipSpace, isSpace, hread]

/-! ## No value is null -/

theorem bare_ne_null (cs : List Char) : bare cs ≠ .null := by
  simp only [bare]
  split
  · nofun
  · split <;> nofun

theorem parseValue_ne_null (s : String) : parseValue s ≠ .null := by
  simp only [parseValue]
  split
  · rename_i v hread
    rw [Nat.add_succ, readValue] at hread
    obtain ⟨⟨u,rest⟩,hmatch,hv⟩ := Option.map_eq_some_iff.mp hread
    obtain ⟨rfl,-⟩ := Prod.mk.inj hv
    rintro rfl
    split at hmatch <;> simp [bare_ne_null] at hmatch
  · nofun

end WorkloadLogin.Variables
