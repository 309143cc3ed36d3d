import TypeSchema.Text.Sanitized

/-!
# Text — clean messages

A message is cleaned character by character and then cut to the limit.  What has been cut is one
character longer than the limit, because of the ellipsis, so it is cut again when it is cleaned
again; but then one ellipsis takes the place of the other (`capped_capped`).  The replacement
character and the ellipsis are no control characters, so a clean message is its own clean message
(`sanitize_of_clean`).
-/

namespace TypeSchema.Text

/-! ### Characters -/

theorem isForbidden_iff {c : Char} : isForbidden c ↔ isControl c ∧ c ≠ '\t' ∧ c ≠ '\n' := by
  simp [isForbidden, and_assoc]

theorem cleanChar_of_not_isForbidden {c : Char} (h : ¬ isForbidden c) : cleanChar c = c := if_neg h

theorem not_isForbidden_cleanChar (c : Char) : ¬ isForbidden (cleanChar c) := by
  unfold cleanChar
  split
  · decide
  · next allowed => exact allowed

/-! ### Cutting -/

/-- What was cut has one character more than the limit. -/
theorem length_capped (cs : List Char) : (capped cs).length = min cs.length (messageLimit + 1) := by
  unfold capped
  split
  · next long =>
    rw [List.length_append, List.length_take, List.length_singleton]
    omega
  · next short => omega

theorem getElem?_capped (cs : List Char) {k : Nat} (h : k < messageLimit) :
    (capped cs)[k]? = cs[k]? := by
  unfold capped
  split
  · next long =>
    have inside : k < (cs.take messageLimit).length := by
      rw [List.length_take]
      omega
    rw [List.getElem?_append_left inside, List.getElem?_take_of_lt h]
  · rfl

/-- An ellipsis stands at the limit if anything stood there before. -/
theorem getElem?_capped_limit {cs : List Char} (long : messageLimit < cs.length) :
    (capped cs)[messageLimit]? = some '…' := by
  have full : (cs.take messageLimit).length = messageLimit :=
    List.length_take_of_le (Nat.le_of_lt long)
  rw [capped, if_pos long, List.getElem?_append_right (Nat.le_of_eq full), full, Nat.sub_self]
  rfl

theorem mem_capped {cs : List Char} {c : Char} (h : c ∈ capped cs) : c ∈ cs ∨ c = '…' := by
  unfold capped at h
  split at h
  · rcases List.mem_append.1 h with h | h
    · exact .inl (List.mem_of_mem_take h)
    · exact .inr (List.mem_singleton.1 h)
  · exact .inl h

/-- **Cutting again changes nothing.** -/
theorem capped_capped (cs : List Char) : capped (capped cs) = capped cs := by
  by_cases long : messageLimit < cs.length
  · have full : (cs.take messageLimit).length = messageLimit :=
      List.length_take_of_le (Nat.le_of_lt long)
    have again : messageLimit < (capped cs).length := by
      rw [length_capped]
      omega
    -- the ellipsis is what is cut off the second time
    rw [capped, if_pos again, capped, if_pos long,
      List.take_append_of_le_length (Nat.le_of_eq full.symm), List.take_take, Nat.min_self]
  · have short : capped cs = cs := if_neg long
    rw [short, short]

/-! ### Messages -/

/-- A message is cleaned character by character, and then cut. -/
theorem toList_sanitize (raw : String) :
    (sanitize raw).1.toList = capped (raw.toList.map cleanChar) := String.toList_ofList

/-- No character of a clean message is forbidden. -/
theorem not_isForbidden_of_mem_sanitize {raw : String} {c : Char}
    (h : c ∈ (sanitize raw).1.toList) : ¬ isForbidden c := by
  rw [toList_sanitize] at h
  rcases mem_capped h with h | rfl
  · obtain ⟨c', -, rfl⟩ := List.mem_map.1 h
    exact not_isForbidden_cleanChar c'
  · decide

/-- A message without forbidden characters that is not cut stays as it is. -/
theorem sanitize_of_clean {s : String} (allowed : ∀ c ∈ s.toList, ¬ isForbidden c)
    (whole : capped s.toList = s.toList) : sanitize s = (s, false) := by
  have kept : s.toList.map cleanChar = s.toList.map id :=
    List.map_congr_left fun c hc => cleanChar_of_not_isForbidden (allowed c hc)
  simp [sanitize, kept, whole]

/-- **What is left of a message.**  Of the control characters only tabs and line feeds are left, and
of a long message as many characters as the limit allows, with an ellipsis after them.  Up to the
limit each character stands where it stood, or the replacement character stands for it.  The message
counts as changed exactly if it is another one, and a clean message is left as it is. -/
theorem sanitize_cleans (raw : String) :
    (∀ c ∈ (sanitize raw).1.toList, isControl c → c = '\t' ∨ c = '\n') ∧
      (sanitize raw).1.length = min raw.length (messageLimit + 1) ∧
      (messageLimit < raw.length → (sanitize raw).1.toList[messageLimit]? = some '…') ∧
      ((sanitize raw).2 = true ↔ (sanitize raw).1 ≠ raw) ∧
      (∀ k c, k < messageLimit → raw.toList[k]? = some c → (sanitize raw).1.toList[k]? =
        some (if isControl c ∧ c ≠ '\t' ∧ c ≠ '\n' then '\ufffd' else c)) ∧
      sanitize (sanitize raw).1 = ((sanitize raw).1, false) := by
  have clean := toList_sanitize raw
  have allowed : ∀ c ∈ (sanitize raw).1.toList, ¬ isForbidden c :=
    fun c => not_isForbidden_of_mem_sanitize
  refine ⟨fun c hc control => ?_, ?_, fun long => ?_, decide_eq_true_iff, fun k c hk there => ?_,
    sanitize_of_clean allowed ?_⟩
  · refine Decidable.byContradiction fun other => ?_
    exact allowed c hc (isForbidden_iff.2 ⟨control, not_or.1 other⟩)
  · rw [← String.length_toList, clean, length_capped, List.length_map, String.length_toList]
  · rw [clean]
    exact getElem?_capped_limit (by rwa [List.length_map, String.length_toList])
  · rw [clean, getElem?_capped _ hk, List.getElem?_map, there, Option.map_some]
    simp only [cleanChar, isForbidden_iff]
  · rw [clean, capped_capped]

/-- A bell, a tab, and letters of two bytes each up to the limit and beyond. -/
def longMessage : String :=
  String.ofList ('\x07' :: '\t' :: List.replicate messageLimit 'é')

/-- The bell is replaced, the tab stays, and an ellipsis stands for the letters beyond the limit;
cleaned again, the message stays as it is. -/
theorem sanitize_cleans_longMessage :
    (sanitize longMessage).1.toList[0]? = some '\ufffd' ∧
      (sanitize longMessage).1.toList[1]? = some '\t' ∧
      (sanitize longMessage).1.toList[512]? = some '…' ∧
      (sanitize longMessage).1.length = 513 ∧
      sanitize (sanitize longMessage).1 = ((sanitize longMessage).1, false) := by
  have length : longMessage.length = 514 := by
    rw [longMessage, String.length_ofList, List.length_cons, List.length_cons,
      List.length_replicate]
    rfl
  obtain ⟨-, short, ellipsis, -, kept, again⟩ := sanitize_cleans longMessage
  refine ⟨kept 0 '\x07' (by decide) ?_, kept 1 '\t' (by decide) ?_,
    ellipsis (by rw [length]; decide), by rw [short, length]; rfl, again⟩
  · rw [longMessage, String.toList_ofList, List.getElem?_cons_zero]
  · rw [longMessage, String.toList_ofList, List.getElem?_cons_succ, List.getElem?_cons_zero]

end TypeSchema.Text
