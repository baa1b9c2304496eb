import TableShell.Text.Numeral
import TableShell.Toml.Scan

/-!
# TOML texts

The four kinds of texts: between quotes, in which a backslash starts an escape, or between
apostrophes, which hold their characters as they are; and either on one line or on several.
-/

namespace TableShell.Toml

def escape? : List Char → Option (Char × Nat)
  | 'b' :: _ => some ('\x08', 1)
  | 't' :: _ => some ('\t', 1)
  | 'n' :: _ => some ('\n', 1)
  | 'f' :: _ => some ('\x0c', 1)
  | 'r' :: _ => some ('\r', 1)
  | '"' :: _ => some ('"', 1)
  | '\\' :: _ => some ('\\', 1)
  | 'u' :: cs => (Text.codePoint? 4 cs).map (·, 5)
  | 'U' :: cs => (Text.codePoint? 8 cs).map (·, 9)
  | _ => none

def skipSpace : List Char → List Char
  | '\r' :: '\n' :: cs => skipSpace cs
  | c :: cs => if Text.isTabOrSpace c || c == '\n' then skipSpace cs else c :: cs
  | [] => []

theorem length_skipSpace_le (cs : List Char) : (skipSpace cs).length ≤ cs.length := by
  fun_induction skipSpace cs with
  | case1 cs ih => simp; omega
  | case2 c cs _ _ ih => simp; omega
  | case3 => simp
  | case4 => simp

/-- The text after a backslash at the end of a line, if there may be several lines: everything up to
the next word is skipped. -/
def continuation? (multiline : Bool) (cs : List Char) : Option (List Char) :=
  let rest := cs.dropWhile Text.isTabOrSpace
  if multiline && (afterNewline? rest).isSome then some (skipSpace rest) else none

theorem length_le_of_continuation? {multiline : Bool} {cs rest : List Char}
    (h : continuation? multiline cs = some rest) : rest.length ≤ cs.length := by
  have := (List.dropWhile_sublist Text.isTabOrSpace (l := cs)).length_le
  have := length_skipSpace_le (cs.dropWhile Text.isTabOrSpace)
  grind [continuation?]

structure TextKind where
  quote : Char
  multiline : Bool

/-- Reads on in a text of which `text`, in reverse, is known, up to and with its closing quotes. Up
to two quotes right before the closing ones belong to the text. A line end is read as a line
feed. -/
def textFrom (k : TextKind) (text : List Char) : List Char → Option (List Char × List Char)
  | [] => none
  | c :: cs =>
    if c = k.quote then
      if !k.multiline then some (text.reverse, cs)
      else if cs.take 2 = [k.quote, k.quote] then
        let more := ((cs.drop 2).take 2).takeWhile (· == k.quote)
        some (text.reverse ++ more, cs.drop (2 + more.length))
      else textFrom k (c :: text) cs
    else if c = '\\' ∧ k.quote = '"' then
      match h : continuation? k.multiline cs with
      | some rest =>
        have := length_le_of_continuation? h
        textFrom k text rest
      | none =>
        match escape? cs with
        | some (d, n) => textFrom k (d :: text) (cs.drop n)
        | none => none
    else if k.multiline && c == '\n' then textFrom k (c :: text) cs
    else if k.multiline && c == '\r' && cs.head? == some '\n' then textFrom k text cs
    else if isTextChar c then textFrom k (c :: text) cs
    else none
termination_by cs => cs.length
decreasing_by all_goals simp only [List.length_cons, List.length_drop]; omega

def lineText? (quote : Char) : List Char → Option (String × List Char)
  | c :: cs =>
    if c = quote then
      (textFrom ⟨quote, false⟩ [] cs).map fun (text, rest) => (String.ofList text, rest)
    else none
  | [] => none

/-- A text of either kind. A line end right after three opening quotes does not count. -/
def text? (quote : Char) (cs : List Char) : Option (String × List Char) :=
  if cs.take 3 = [quote, quote, quote] then
    let cs := cs.drop 3
    let body := (afterNewline? cs).getD cs
    (textFrom ⟨quote, true⟩ [] body).map fun (text, rest) => (String.ofList text, rest)
  else lineText? quote cs

end TableShell.Toml
