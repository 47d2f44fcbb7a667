/-!
# Quoting by doubling

A quoted text stands between two quote characters, and a quote character inside it is written twice.
`decode` reads such a text back and accepts nothing else.
-/

namespace SchemaSql.Text.Doubled

/-- The inside of a quoted text: each quote character twice, all else once. -/
def body (q : Char) : List Char → List Char
  | [] => []
  | c :: rest => if c = q then q :: q :: body q rest else c :: body q rest

/-- **A text between quotes.** -/
def encode (q : Char) (cs : List Char) : List Char :=
  q :: body q cs ++ [q]

/-- Reads the inside of a quoted text and its closing quote, and returns what follows. -/
def decodeBody (q : Char) : List Char → Option (List Char × List Char)
  | [] => none
  | c :: rest =>
    if c = q then
      match rest with
      | d :: rest' =>
        if d = q then (decodeBody q rest').map fun (cs, after) => (q :: cs, after) else some ([], d :: rest')
      | [] => some ([], [])
    else (decodeBody q rest).map fun (cs, after) => (c :: cs, after)

/-- Quoting brings no character but the quote into a text. -/
theorem mem_of_mem_encode {q c : Char} (hc : c ≠ q) {cs : List Char} (h : c ∈ encode q cs) : c ∈ cs := by
  have hbody : c ∈ body q cs := by
    simpa only [encode, List.cons_append, List.mem_cons, hc, false_or, List.mem_append, List.not_mem_nil,
      or_false] using h
  clear h
  induction cs with
  | nil => exact hbody
  | cons d cs ih =>
    rw [body] at hbody
    split at hbody
    · have hrest : c ∈ body q cs := by simpa only [List.mem_cons, hc, false_or] using hbody
      exact List.mem_cons_of_mem d (ih hrest)
    · rcases List.mem_cons.1 hbody with rfl | hrest
      · exact List.mem_cons_self
      · exact List.mem_cons_of_mem d (ih hrest)

/-- **Reads a text that is quoted as a whole.** -/
def decode (q : Char) : List Char → Option (List Char)
  | [] => none
  | c :: rest =>
    if c = q then
      match decodeBody q rest with
      | some (cs, []) => some cs
      | _ => none
    else none

/-- The inside of a quoted text is read up to its closing quote, unless another quote follows. -/
theorem decodeBody_body {q : Char} (cs : List Char) {rest : List Char} (h : rest.head? ≠ some q) :
    decodeBody q (body q cs ++ q :: rest) = some (cs, rest) := by
  induction cs with
  | nil =>
    cases rest with
    | nil => simp [body, decodeBody]
    | cons d rest =>
      have hd : d ≠ q := fun hd => h (by rw [hd]; rfl)
      simp [body, decodeBody, hd]
  | cons c cs ih =>
    by_cases hc : c = q
    · simp [body, decodeBody, hc, ih]
    · rw [body, if_neg hc, List.cons_append]
      unfold decodeBody
      simp [hc, ih]

/-- **A quoted text reads back.** -/
theorem decode_encode (q : Char) (cs : List Char) : decode q (encode q cs) = some cs := by
  have h : decodeBody q (body q cs ++ [q]) = some (cs, []) := decodeBody_body cs (by simp)
  simp [decode, encode, h]

end SchemaSql.Text.Doubled
