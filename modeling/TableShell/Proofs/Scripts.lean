import Mathlib.Data.List.DropRight
import Mathlib.Data.List.ReduceOption
import TableShell.Proofs.Decoding
import TableShell.Proofs.Pieces
import TableShell.Proofs.Statements

/-!
# Scripts and their lines

A script is read piece by piece, each up to its newline, and decoded as it is read. It means what
the lines of its text mean when it is decoded as a whole, and it may be handed over in parts that
end with newlines.
-/

namespace TableShell

section Cutting

variable {α : Type} [DecidableEq α] {d : α} {as bs : List α}

/-- The pieces of a list, each up to and with a `d`; the last one may lack it. -/
def cutAfter (d : α) : List α → List (List α)
  | [] => []
  | a :: as =>
    if a = d then [a] :: cutAfter d as
    else match cutAfter d as with
      | [] => [[a]]
      | piece :: pieces => (a :: piece) :: pieces

theorem cutAfter_of_notMem (h : d ∉ as) (hne : as ≠ []) : cutAfter d as = [as] := by
  induction as with
  | nil => exact absurd rfl hne
  | cons a as ih =>
    obtain ⟨ha, has⟩ := List.ne_and_not_mem_of_not_mem_cons h
    rw [cutAfter, if_neg (Ne.symm ha)]
    by_cases hnil : as = []
    · rw [hnil, cutAfter]
    · rw [ih has hnil]

theorem cutAfter_append_cons (h : d ∉ as) (bs : List α) :
    cutAfter d (as ++ d :: bs) = (as ++ [d]) :: cutAfter d bs := by
  induction as with
  | nil => exact if_pos rfl
  | cons a as ih =>
    obtain ⟨ha, has⟩ := List.ne_and_not_mem_of_not_mem_cons h
    rw [List.cons_append, cutAfter, if_neg (Ne.symm ha), ih has]
    rfl

theorem cutAfter_append (h : ∀ a ∈ as.getLast?, a = d) (bs : List α) :
    cutAfter d (as ++ bs) = cutAfter d as ++ cutAfter d bs := by
  induction as using cut_induction d with
  | nil => rfl
  | last as hmem hne =>
    have hlast := h _ (List.getLast?_eq_some_getLast hne)
    exact absurd (hlast ▸ List.getLast_mem hne) hmem
  | cut as as' hmem ih =>
    have hlast : ∀ a ∈ as'.getLast?, a = d := by
      intro a ha
      refine h a ?_
      rw [List.getLast?_append, List.getLast?_cons, Option.mem_def.mp ha]
      rfl
    rw [List.append_assoc, List.cons_append, cutAfter_append_cons hmem,
      cutAfter_append_cons hmem, ih hlast, List.cons_append]

end Cutting

namespace Script

def lineText (piece : List Char) : String :=
  String.ofList (piece.rdropWhile fun c => c == '\n' || c == '\r')

def textLines (text : List Char) : List String := (cutAfter '\n' text).map lineText

section Pieces

variable {bs : List UInt8} (h : newline ∉ bs)
include h

theorem bne_newline_of_mem : ∀ b ∈ bs, (b != newline) = true := fun _ hb =>
  bne_iff_ne.mpr fun hnewline => h (hnewline ▸ hb)

theorem pieces_of_notMem (hne : bs ≠ []) : pieces bs = [bs] := by
  have hpass := bne_newline_of_mem h
  have htake : bs.takeWhile (· != newline) = bs := List.takeWhile_eq_self_iff.mpr hpass
  have hdrop : bs.dropWhile (· != newline) = [] := List.dropWhile_eq_nil_iff.mpr hpass
  rw [pieces.eq_def]
  split
  · exact absurd rfl hne
  · split
    · rw [htake]
    · next hcons => cases hdrop.symm.trans hcons

theorem pieces_append_cons (rest : List UInt8) :
    pieces (bs ++ newline :: rest) = (bs ++ [newline]) :: pieces rest := by
  have hpass := bne_newline_of_mem h
  have htake : (bs ++ newline :: rest).takeWhile (· != newline) = bs := by
    rw [List.takeWhile_append_of_pos hpass]
    simp
  have hdrop : (bs ++ newline :: rest).dropWhile (· != newline) = newline :: rest := by
    rw [List.dropWhile_append_of_pos hpass]
    simp
  rw [pieces.eq_def]
  split
  · next hnil => simp at hnil
  · split
    · next hnil => cases hdrop.symm.trans hnil
    · next heq =>
      cases hdrop.symm.trans heq
      rw [htake]

end Pieces

theorem pieces_eq_cutAfter (bs : List UInt8) : pieces bs = cutAfter newline bs := by
  induction bs using cut_induction newline with
  | nil => rw [pieces, cutAfter]
  | last bs h hne => rw [pieces_of_notMem h hne, cutAfter_of_notMem h hne]
  | cut as bs h ih => rw [pieces_append_cons h, cutAfter_append_cons h, ih]

/-- Decoding piece by piece and decoding the whole give the same pieces of text. -/
theorem map_decodeLossy_pieces (bs : List UInt8) :
    (pieces bs).map Text.decodeLossy = cutAfter '\n' (Text.decodeLossy bs) := by
  rw [pieces_eq_cutAfter]
  induction bs using cut_induction newline with
  | nil => rw [Text.decodeLossy_nil, cutAfter, cutAfter, List.map_nil]
  | last bs h hne =>
    have htext := Text.newline_notMem_decodeLossy h
    rw [cutAfter_of_notMem h hne, cutAfter_of_notMem htext (Text.decodeLossy_ne_nil hne),
      List.map_singleton]
  | cut bs rest h ih =>
    have htext := Text.newline_notMem_decodeLossy h
    rw [cutAfter_append_cons h, Text.decodeLossy_append_newline, cutAfter_append_cons htext,
      List.map_cons, ih, Text.decodeLossy_append_newline, Text.decodeLossy_nil]

theorem lines_eq_textLines (bs : List UInt8) : lines bs = textLines (Text.decodeLossy bs) := by
  rw [textLines, ← map_decodeLossy_pieces, List.map_map]
  rfl

theorem lines_nil : lines [] = [] := by rw [lines, pieces, List.map_nil]

theorem lines_append {bs : List UInt8} (h : ∀ b ∈ bs.getLast?, b = newline) (rest : List UInt8) :
    lines (bs ++ rest) = lines bs ++ lines rest := by
  rw [lines, pieces_eq_cutAfter, cutAfter_append h, List.map_append, ← pieces_eq_cutAfter,
    ← pieces_eq_cutAfter]
  rfl

theorem output_append (texts texts' : List String) :
    output (texts ++ texts') = output texts ++ output texts' := by
  rw [output, List.map_append, String.join_append]
  rfl

def frame (banner : Option String) (body : String) : String :=
  output banner.toList ++ body ++ output ["Goodbye!"]

end Script

namespace Session

open Script (newline frame)

variable {db : Session} {line : String} {lines lines' : List String} {banner : Option String}

def body (db : Session) (lines : List String) : String :=
  Script.output (run eval db lines).1.reduceOption

theorem evalLines_eq_run (db : Session) (lines : List String) :
    db.evalLines lines = ((run eval db lines).1.reduceOption, (run eval db lines).2) := by
  induction lines generalizing db with
  | nil => rfl
  | cons line lines ih =>
    have hcons : db.evalLines (line :: lines) =
        ((db.eval line).1.toList ++ ((db.eval line).2.evalLines lines).1,
          ((db.eval line).2.evalLines lines).2) := rfl
    rw [hcons, ih, run_cons]
    cases (db.eval line).1 <;> rfl

theorem body_append (db : Session) (lines lines' : List String) :
    db.body (lines ++ lines') = db.body lines ++ (run eval db lines).2.body lines' := by
  rw [body, run_append, List.reduceOption_append, Script.output_append]
  rfl

theorem body_cons (db : Session) (line : String) (lines : List String) :
    db.body (line :: lines) =
      Script.output (db.eval line).1.toList ++ (db.eval line).2.body lines := by
  rw [body, run_cons]
  cases (db.eval line).1 with
  | none => rfl
  | some text => exact Script.output_append [text] _

theorem runScript_eq (db : Session) (banner : Option String) (script : List UInt8) :
    db.runScript banner script =
      (frame banner (db.body (Script.lines script)), (run eval db (Script.lines script)).2) := by
  rw [runScript, evalLines_eq_run]
  dsimp only
  rw [Script.output_append, Script.output_append]
  rfl

theorem eval_fst_eq_none_iff : (db.eval line).1 = none ↔ line.toList.all Text.isBlank := by
  unfold eval
  split_ifs with hblank <;> simp [hblank]

theorem eval_fst_eq_some_iff {text : String} :
    (db.eval line).1 = some text ↔
      ¬ line.toList.all Text.isBlank ∧ db.answer (db.execute line).1 = text := by
  unfold eval
  split_ifs with hblank <;> simp [hblank]

theorem eval_snd (db : Session) (line : String) :
    (db.eval line).2 = if line.toList.all Text.isBlank then db else (db.execute line).2 := by
  unfold eval
  split_ifs <;> rfl

theorem eval_snd_eq (db : Session) (line : String) :
    (db.eval line).2 = { db with store := (db.eval line).2.store } := by
  rw [eval_snd]
  split_ifs
  · rfl
  · rw [Session.mk.injEq]
    exact ⟨schema_execute, registry_execute, rfl⟩

theorem eval_snd_of_error {e : Error} (h : (db.execute line).1 = .error e) :
    (db.eval line).2 = db := by
  rw [eval_snd]
  split_ifs
  · rfl
  · exact execute_snd_of_error h

theorem run_runScript (db : Session) (banner : Option String) (parts : List (List UInt8))
    (hparts : ∀ part ∈ parts.dropLast, ∀ b ∈ part.getLast?, b = newline) :
    ∃ bodies, run (fun db part => db.runScript banner part) db parts =
        (bodies.map (frame banner), (run eval db (Script.lines parts.flatten)).2) ∧
      String.join bodies = db.body (Script.lines parts.flatten) := by
  induction parts generalizing db with
  | nil =>
    refine ⟨[], ?_, ?_⟩
    · rw [List.flatten_nil, Script.lines_nil]
      rfl
    · rw [List.flatten_nil, Script.lines_nil]
      rfl
  | cons part parts ih =>
    have hlines : Script.lines (part ++ parts.flatten) =
        Script.lines part ++ Script.lines parts.flatten := by
      -- The last part may end within a line, but nothing follows it.
      cases parts with
      | nil => rw [List.flatten_nil, Script.lines_nil, List.append_nil, List.append_nil]
      | cons next parts => exact Script.lines_append (hparts part (List.mem_cons_self ..)) _
    have hrest : ∀ part' ∈ parts.dropLast, ∀ b ∈ part'.getLast?, b = newline := by
      cases parts with
      | nil => exact fun _ h => (List.not_mem_nil h).elim
      | cons next parts => exact fun part' h => hparts part' (List.mem_cons_of_mem _ h)
    obtain ⟨bodies, hrun, hbodies⟩ := ih (run eval db (Script.lines part)).2 hrest
    refine ⟨db.body (Script.lines part) :: bodies, ?_, ?_⟩
    · rw [run_cons, runScript_eq, hrun, List.flatten_cons, hlines, run_append]
      rfl
    · rw [String.join_cons, hbodies, List.flatten_cons, hlines, body_append]

/-- A script shows the banner, what the lines of its text show, and the farewell, and it leaves the
session where these lines leave it. Each line acts on the store alone, a line that fails does not,
and the script may be run in parts that end with newlines. -/
theorem runScript_lines (db : Session) (banner : Option String) (script : List UInt8) :
    let lines := Script.textLines (Text.decodeLossy script)
    db.runScript banner script =
        (Script.output (banner.toList ++ (run eval db lines).1.reduceOption ++ ["Goodbye!"]),
          (run eval db lines).2) ∧
      (Script.pieces script).map Text.decodeLossy = cutAfter '\n' (Text.decodeLossy script) ∧
      (∀ before line after, lines = before ++ line :: after →
        let db₁ := (run eval db before).2
        let text := (db₁.eval line).1
        let db₂ := (db₁.eval line).2
        db.runScript banner script =
            (frame banner (db.body before ++ Script.output text.toList ++ db₂.body after),
              (run eval db₂ after).2) ∧
          db₂ = { db₁ with store := db₂.store } ∧
          ∀ e, (db₁.execute line).1 = .error e → db₂ = db₁) ∧
      ∀ parts : List (List UInt8), parts.flatten = script →
        (∀ part ∈ parts.dropLast, ∀ b ∈ part.getLast?, b = newline) →
        ∃ bodies, (db.runScript banner script).1 = frame banner (String.join bodies) ∧
          run (fun db part => db.runScript banner part) db parts =
            (bodies.map (frame banner), (db.runScript banner script).2) := by
  intro lines
  have hlines : Script.lines script = lines := Script.lines_eq_textLines script
  have hrun := runScript_eq db banner script
  rw [hlines] at hrun
  refine ⟨?_, Script.map_decodeLossy_pieces script, fun before line after hcut => ?_,
    fun parts hflatten hparts => ?_⟩
  · rw [hrun, Script.output_append, Script.output_append]
    rfl
  · intro db₁ text db₂
    refine ⟨?_, eval_snd_eq db₁ line, fun e => eval_snd_of_error⟩
    rw [hrun, hcut, body_append, body_cons, run_append, run_cons, String.append_assoc]
  · obtain ⟨bodies, hbodies, hjoin⟩ := run_runScript db banner parts hparts
    rw [hflatten, hlines] at hbodies hjoin
    rw [hrun]
    exact ⟨bodies, congrArg (frame banner) hjoin.symm, hbodies⟩

/-- A line that breaks off within a character, a blank line, and a last line without its end. -/
theorem runScript_lines_broken :
    let db := start .staff .builtin
    let head : List UInt8 := [0x67, 0x65, 0x74, 0x20, 0xE2, 0x82, 0x0D, 0x0A]
    let tail : List UInt8 := [0x0D, 0x0A, 0x64, 0x65, 0x6C]
    let whole := db.runScript (some "Hi") (head ++ tail)
    Script.textLines (Text.decodeLossy (head ++ tail)) = ["get \uFFFD", "", "del"] ∧
      whole.1 = Script.output ["Hi",
        "[0x102003] DataEntryInvalid: invalid entry: invalid integer: \uFFFD",
        "[0x101004] CommandTooFewArguments: too few arguments! " ++
          "expect 1 argument(-groups) while only 0 supplied.", "Goodbye!"] ∧
      ∃ bodies, whole.1 = frame (some "Hi") (String.join bodies) ∧
        run (fun db part => db.runScript (some "Hi") part) db [head, tail] =
          (bodies.map (frame (some "Hi")), whole.2) := by
  intro db head tail whole
  obtain ⟨hwhole, -, -, hparts⟩ := runScript_lines db (some "Hi") (head ++ tail)
  obtain ⟨bodies, hbodies, hrun⟩ := hparts [head, tail] rfl (by simp [head, newline])
  refine ⟨by decide +kernel, ?_, bodies, hbodies, hrun⟩
  rw [congrArg Prod.fst hwhole]
  decide +kernel

end Session

end TableShell
