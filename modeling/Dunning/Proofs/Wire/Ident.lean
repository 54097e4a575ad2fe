import Dunning.Ident
import Mathlib.Tactic.Ring

/-!
# Identifiers are read back

An identifier is written as 32 hexadecimal digits with four hyphens between them. The groups are
windows of one number, so without the hyphens they are its digits in a row, and reading digits is
undone by dividing.

## Main results

* `Uuid.hexDigits_append` — windows that meet are one window.
* `Uuid.parse?_render` — the written form of an identifier denotes it.
-/

namespace Dunning

/-- The digit of a number below 16 is read as that number. -/
theorem Text.hexDigit?_digitChar {d : Nat} (h : d < 16) :
    hexDigit? (Nat.digitChar d) = some d := by
  have hall : ∀ d : Fin 16, hexDigit? (Nat.digitChar d) = some (d : Nat) := by decide
  exact hall ⟨d, h⟩

namespace Uuid

/-! ## Digits -/

@[simp] theorem length_hexDigits (count n : Nat) : (hexDigits count n).length = count := by
  induction count generalizing n with
  | zero => rfl
  | succ count ih => rw [hexDigits, List.length_append, ih, List.length_singleton]

private theorem digitChar_ne_hyphen {d : Nat} (h : d < 16) : Nat.digitChar d ≠ '-' := by
  have hall : ∀ d : Fin 16, Nat.digitChar d ≠ '-' := by decide
  exact hall ⟨d, h⟩

theorem hyphen_notMem_hexDigits (count n : Nat) : '-' ∉ hexDigits count n := by
  induction count generalizing n with
  | zero => exact List.not_mem_nil
  | succ count ih =>
      rw [hexDigits, List.mem_append, List.mem_singleton]
      intro h
      rcases h with h | h
      · exact ih _ h
      · exact digitChar_ne_hyphen (Nat.mod_lt n (by omega)) h.symm

theorem hexDigits_append (a b n : Nat) :
    hexDigits a (n / 16 ^ b) ++ hexDigits b n = hexDigits (a + b) n := by
  induction b generalizing n with
  | zero => rw [Nat.pow_zero, Nat.div_one, hexDigits, List.append_nil, Nat.add_zero]
  | succ b ih =>
      have hdiv : n / 16 ^ (b + 1) = n / 16 / 16 ^ b := by
        rw [Nat.pow_succ, Nat.mul_comm, Nat.div_div_eq_div_mul]
      rw [hexDigits, ← List.append_assoc, hdiv, ih, ← Nat.add_assoc, hexDigits]

/-- Reading the last digits of a number gives what is left of it by division. -/
theorem hexValue?_hexDigits (count n : Nat) :
    hexValue? (hexDigits count n) = some (n % 16 ^ count) := by
  induction count generalizing n with
  | zero => rw [Nat.pow_zero, Nat.mod_one, hexDigits]; rfl
  | succ count ih =>
      have hdigit := Text.hexDigit?_digitChar (Nat.mod_lt n (show 16 > 0 by omega))
      have hvalue : 16 * (n / 16 % 16 ^ count) + n % 16 = n % 16 ^ (count + 1) := by
        rw [Nat.pow_succ, Nat.mul_comm (16 ^ count), Nat.mod_mul]
        omega
      have hprefix := ih (n / 16)
      unfold hexValue? at hprefix ⊢
      rw [hexDigits, List.foldl_append, hprefix, List.foldl_cons, List.foldl_nil, hdigit, ← hvalue]
      rfl

/-! ## Groups -/

/-- The characters of an identifier are its digits with four hyphens between them. -/
private theorem filter_chars (u : Uuid) : u.chars.filter (· != '-') = hexDigits 32 u.toNat := by
  have hkept (count n : Nat) :
      (hexDigits count n).filter (· != '-') = hexDigits count n := by
    refine List.filter_eq_self.mpr ?_
    intro c hc
    rw [bne_iff_ne]
    intro heq
    subst heq
    exact hyphen_notMem_hexDigits count n hc
  have hhyphen : ['-'].filter (· != '-') = [] := by decide
  unfold chars
  simp only [List.filter_append, hkept, hhyphen, List.append_nil]
  rw [show (0x1000000000000000000000000 : Nat) = 16 ^ 4 * 16 ^ 20 by norm_num,
    show (0x100000000000000000000 : Nat) = 16 ^ 20 by norm_num,
    ← Nat.div_div_eq_div_mul, Nat.div_div_eq_div_mul, Nat.mul_comm, ← Nat.div_div_eq_div_mul,
    hexDigits_append, show (16 ^ 20 : Nat) = 16 ^ 16 * 16 ^ 4 by norm_num,
    ← Nat.div_div_eq_div_mul, show (0x10000000000000000 : Nat) = 16 ^ 16 by norm_num,
    hexDigits_append, show (16 ^ 16 : Nat) = 16 ^ 12 * 16 ^ 4 by norm_num,
    ← Nat.div_div_eq_div_mul, show (0x1000000000000 : Nat) = 16 ^ 12 by norm_num,
    hexDigits_append, hexDigits_append]

private theorem length_chars (u : Uuid) : u.chars.length = 36 := by
  simp [chars]

/-- **The written form of an identifier denotes it.** -/
theorem parse?_render (u : Uuid) : parse? u.render = some u := by
  have hgroups : [8, 13, 18, 23].all (fun i => u.chars[i]? == some '-') = true := by
    simp [chars, List.getElem?_append]
  have hdigits : ofDigits? (hexDigits 32 u.toNat) = some u := by
    unfold ofDigits?
    rw [if_pos (length_hexDigits 32 _), hexValue?_hexDigits]
    simp [ofNat, Nat.mod_eq_of_lt u.toNat_lt]
  unfold parse? render parseChars?
  rw [String.toList_ofList, length_chars]
  show ofGroups? u.chars = some u
  unfold ofGroups?
  rw [if_pos ⟨length_chars u, hgroups⟩, filter_chars, hdigits]

theorem render_injective {u v : Uuid} (h : u.render = v.render) : u = v := by
  have hparse := congrArg parse? h
  rw [parse?_render, parse?_render] at hparse
  exact Option.some.inj hparse

/-- An identifier that is written as a document is read back. -/
@[simp] theorem decode?_toJson (u : Uuid) : decode? u.toJson.toNode = some u := by
  rw [toJson, Json.toNode, decode?, Node.string?, Option.bind_some, parse?_render]

end Uuid

/-! ## Identifiers of one kind -/

@[simp] theorem AccountId.decode?_toJson (a : AccountId) : decode? a.toJson.toNode = some a := by
  rw [toJson, decode?, Uuid.decode?_toJson, Option.map_some]

@[simp] theorem PaymentId.decode?_toJson (p : PaymentId) : decode? p.toJson.toNode = some p := by
  rw [toJson, decode?, Uuid.decode?_toJson, Option.map_some]

/-- Different accounts own different work. -/
theorem AccountId.render_injective {a b : AccountId} (h : a.render = b.render) : a = b := by
  obtain ⟨u⟩ := a
  obtain ⟨v⟩ := b
  exact congrArg mk (Uuid.render_injective h)

end Dunning
