import LiderPlatform.PyText
/-!
# PyShlex — `shlex.split`

A command line is cut at blanks.  Quotes keep blanks, an empty pair of quotes is an empty token, and a backslash keeps the
next character; inside double quotes it does so before a quote and a backslash only.  Plain tokens with single blanks
between them are split back (`shlexSplit_join`).
-/
namespace Py

/-- Where the reader is: between tokens, in a token, in quotes, or behind a backslash, perhaps in quotes. -/
inductive ShlexState where
  | blank
  | word
  | quoted (quote : Char)
  | escaped (quote : Option Char)
deriving DecidableEq

def isShlexBlank (c : Char) : Bool := c ∈ [' ', '\t', '\r', '\n']

def isQuote (c : Char) : Bool := c ∈ ['\'', '"']

/-- The tokens read from a state, with the token begun and whether it has quotes; or the message of the `ValueError`. -/
def shlexFrom : ShlexState → Text → Bool → Text → Except String (List Text)
  | .blank, _, _, [] => .ok []
  | .blank, _, _, c :: cs =>
    if isShlexBlank c then shlexFrom .blank [] false cs
    else if c = '\\' then shlexFrom (.escaped none) [] false cs
    else if isQuote c then shlexFrom (.quoted c) [] false cs
    else shlexFrom .word [c] false cs
  | .word, token, quoted, [] => .ok (if token ≠ [] ∨ quoted = true then [token] else [])
  | .word, token, quoted, c :: cs =>
    if isShlexBlank c then
      if token ≠ [] ∨ quoted = true then (token :: ·) <$> shlexFrom .blank [] false cs
      else shlexFrom .blank [] false cs
    else if isQuote c then shlexFrom (.quoted c) token quoted cs
    else if c = '\\' then shlexFrom (.escaped none) token quoted cs
    else shlexFrom .word (token ++ [c]) quoted cs
  | .quoted _, _, _, [] => .error "No closing quotation"
  | .quoted quote, token, _, c :: cs =>
    if c = quote then shlexFrom .word token true cs
    else if c = '\\' ∧ quote = '"' then shlexFrom (.escaped (some quote)) token true cs
    else shlexFrom (.quoted quote) (token ++ [c]) true cs
  | .escaped _, _, _, [] => .error "No escaped character"
  | .escaped none, token, quoted, c :: cs => shlexFrom .word (token ++ [c]) quoted cs
  | .escaped (some quote), token, quoted, c :: cs =>
    shlexFrom (.quoted quote) (if c ≠ '\\' ∧ c ≠ quote then token ++ ['\\', c] else token ++ [c]) quoted cs

def shlexSplit (text : Text) : Except String (List Text) := shlexFrom .blank [] false text

/-- A character that stands for itself. -/
def isPlainChar (c : Char) : Bool := !isShlexBlank c && !isQuote c && decide (c ≠ '\\')

/-- `" ".join(tokens)`. -/
def joinTokens : List Text → Text
  | [] => []
  | [token] => token
  | token :: tokens => token ++ ' ' :: joinTokens tokens

theorem plainChar {c : Char} (h : isPlainChar c = true) : isShlexBlank c = false ∧ isQuote c = false ∧ c ≠ '\\' := by
  simpa [isPlainChar, and_assoc] using h

theorem shlexFrom_word (rest : Text) : ∀ (more token : Text), (∀ c ∈ more, isPlainChar c = true) →
    shlexFrom .word token false (more ++ rest) = shlexFrom .word (token ++ more) false rest
  | [], token, _ => by rw [List.nil_append, List.append_nil]
  | c :: more, token, h => by
    obtain ⟨hblank, hquote, hback⟩ := plainChar (h c List.mem_cons_self)
    rw [List.cons_append, shlexFrom, if_neg (by simp [hblank]), if_neg (by simp [hquote]), if_neg hback,
      shlexFrom_word rest more _ (fun x hx => h x (List.mem_cons_of_mem _ hx)), List.append_assoc]
    rfl

/-- A plain token is read whole. -/
theorem shlexFrom_blank (rest : Text) {token : Text} (hne : token ≠ []) (h : ∀ c ∈ token, isPlainChar c = true) :
    shlexFrom .blank [] false (token ++ rest) = shlexFrom .word token false rest := by
  obtain ⟨c, cs, rfl⟩ := List.exists_cons_of_ne_nil hne
  obtain ⟨hblank, hquote, hback⟩ := plainChar (h c List.mem_cons_self)
  rw [List.cons_append, shlexFrom, if_neg (by simp [hblank]), if_neg hback, if_neg (by simp [hquote]),
    shlexFrom_word rest cs _ (fun x hx => h x (List.mem_cons_of_mem _ hx))]
  rfl

/-- **The first word is read on its own**, whatever follows its blank. -/
theorem shlexSplit_cons {token : Text} (hne : token ≠ []) (h : ∀ c ∈ token, isPlainChar c = true) (rest : Text) :
    shlexSplit (token ++ ' ' :: rest) = (token :: ·) <$> shlexSplit rest := by
  rw [shlexSplit, shlexFrom_blank _ hne h, shlexFrom, if_pos (by decide), if_pos (.inl hne), shlexSplit]

/-- **Plain tokens with single blanks between them are split back.** -/
theorem shlexSplit_join : ∀ tokens : List Text, (∀ token ∈ tokens, token ≠ [] ∧ ∀ c ∈ token, isPlainChar c = true) →
    shlexSplit (joinTokens tokens) = .ok tokens
  | [], _ => rfl
  | [token], h => by
    obtain ⟨hne, hplain⟩ := h token List.mem_cons_self
    rw [joinTokens, shlexSplit, ← List.append_nil token, shlexFrom_blank [] hne hplain, shlexFrom]
    simp [hne]
  | token :: next :: tokens, h => by
    obtain ⟨hne, hplain⟩ := h token List.mem_cons_self
    have ih := shlexSplit_join (next :: tokens) (fun t ht => h t (List.mem_cons_of_mem _ ht))
    rw [shlexSplit] at ih
    rw [joinTokens, shlexSplit, shlexFrom_blank _ hne hplain, shlexFrom, if_pos (by decide), if_pos (.inl hne), ih]
    · rfl
    · simp

end Py
