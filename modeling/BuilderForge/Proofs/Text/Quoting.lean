import BuilderForge.Code.StringLiteral
import BuilderForge.Text.Quoted

set_option autoImplicit false

/-! # Reading quoted text

A text that is written as a literal of code is read back from it (`text?_quoteCode`): every
character is escaped in a way that stands for it, whatever comes behind.
-/

namespace BuilderForge.Code.StringLiteral

open Text (hexDigits escapeChar escapeAll quoteCode)

/-! ## Numbers -/

theorem hexValue?_digitChar {d : Nat} (hd : d < 16) : hexValue? d.digitChar = some d := by
  have hall : ∀ d < 16, hexValue? d.digitChar = some d := by decide
  exact hall d hd

theorem digitChar_ne_brace {d : Nat} (hd : d < 16) : d.digitChar ≠ '\x7d' := by
  have hall : ∀ d < 16, d.digitChar ≠ '\x7d' := by decide
  exact hall d hd

theorem hexNumber_append_digit (cs : List Char) {d : Nat} (hd : d < 16) :
    hexNumber (cs ++ [d.digitChar]) = 16 * hexNumber cs + d := by
  simp [hexNumber, hexValue?_digitChar hd]

theorem hexDigits_eq (n : Nat) :
    hexDigits n = if n < 16 then [n.digitChar] else hexDigits (n / 16) ++ [(n % 16).digitChar] :=
  Nat.toDigits_eq_if (by decide)

/-- A number is read from its digits. -/
theorem hexNumber_hexDigits (n : Nat) : hexNumber (hexDigits n) = n := by
  induction n using Nat.strongRecOn with
  | ind n ih =>
      rw [hexDigits_eq]
      split
      · next hlt => exact (hexNumber_append_digit [] hlt).trans (by simp [hexNumber])
      · next hge =>
          rw [hexNumber_append_digit _ (Nat.mod_lt n (by decide)), ih (n / 16) (by omega)]
          omega

/-- None of the digits ends the code point. -/
theorem ne_brace_of_mem_hexDigits (n : Nat) : ∀ c ∈ hexDigits n, c ≠ '\x7d' := by
  induction n using Nat.strongRecOn with
  | ind n ih =>
      rw [hexDigits_eq]
      intro c hc
      split at hc
      · next hlt =>
          rw [List.mem_singleton.mp hc]
          exact digitChar_ne_brace hlt
      · rcases List.mem_append.mp hc with hc | hc
        · exact ih (n / 16) (by omega) c hc
        · rw [List.mem_singleton.mp hc]
          exact digitChar_ne_brace (Nat.mod_lt n (by decide))

/-! ## Characters -/

/-- A code point is read up to the brace behind its digits. -/
theorem plain_code (cs : List Char) (hcs : ∀ c ∈ cs, c ≠ '\x7d') (before rest : List Char) :
    plain.code before (cs ++ '\x7d' :: rest)
      = Char.ofNat (hexNumber (before.reverse ++ cs)) :: plain false rest := by
  induction cs generalizing before with
  | nil => simp [plain.code]
  | cons c cs ih =>
      obtain ⟨hc, hcs⟩ := List.forall_mem_cons.mp hcs
      have hstep : plain.code before (c :: (cs ++ '\x7d' :: rest))
          = plain.code (c :: before) (cs ++ '\x7d' :: rest) := by
        rw [plain.code]
        simpa using hc
      rw [List.cons_append, hstep, ih hcs (c :: before)]
      simp

/-- A character that is neither a quote nor begins something longer stands for itself. -/
theorem plain_cons {c : Char} (hquote : c ≠ '"') (hbackslash : c ≠ '\\') (hreturn : c ≠ '\r')
    (rest : List Char) : plain false (c :: rest) = c :: plain false rest := by
  rw [plain]
  · simp
  all_goals grind

/-- A character is read from its escaped form. -/
theorem plain_escapeChar (c : Char) (rest : List Char) :
    plain false (escapeChar c ++ rest) = c :: plain false rest := by
  by_cases hquote : c = '"'
  · simp [hquote, escapeChar, plain]
  by_cases hbackslash : c = '\\'
  · simp [hbackslash, escapeChar, plain]
  by_cases hnewline : c = '\n'
  · simp [hnewline, escapeChar, plain]
  by_cases hreturn : c = '\r'
  · simp [hreturn, escapeChar, plain]
  by_cases htab : c = '\t'
  · simp [htab, escapeChar, plain]
  by_cases hnul : c = Char.ofNat 0
  · simp [hnul, escapeChar, plain]
  simp only [escapeChar, hquote, hbackslash, hnewline, hreturn, htab, hnul, beq_iff_eq, if_false]
  split
  · -- the code point in braces
    have hcode := plain_code (hexDigits c.toNat) (ne_brace_of_mem_hexDigits c.toNat) [] rest
    rw [List.reverse_nil, List.nil_append, hexNumber_hexDigits, Char.ofNat_toNat] at hcode
    simpa [plain] using hcode
  · exact plain_cons hquote hbackslash hreturn rest

theorem plain_escapeAll (cs rest : List Char) :
    plain false (escapeAll cs ++ '"' :: rest) = cs := by
  induction cs with
  | nil => simp [escapeAll, plain]
  | cons c cs ih =>
      rw [escapeAll, List.append_assoc]
      split
      · next h =>
          obtain ⟨hnul, -⟩ := Bool.and_eq_true_iff.mp h
          obtain rfl := eq_of_beq hnul
          simp only [List.cons_append, List.nil_append, plain, ih]
          rfl
      · rw [plain_escapeChar, ih]

/-- **A text is read back from its literal.** -/
theorem text?_quoteCode (s : String) : text? (quoteCode s) = some s := by
  have hplain : plain false (escapeAll s.toList ++ ['"']) = s.toList := plain_escapeAll s.toList []
  rw [text?, quoteCode, String.toList_ofList]
  simp only [hplain, String.ofList_toList]

end BuilderForge.Code.StringLiteral
