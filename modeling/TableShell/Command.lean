import TableShell.Entry
import TableShell.Grammar

/-!
# Commands

A command has the word that invokes it, texts for the help, a grammar for its arguments and the
action that it stands for. A registry is a list of commands with pairwise distinct words; its order
is the order of the help.
-/

namespace TableShell

inductive Action where
  | add
  | delete
  | get
  | list
  | modify
  | help
  deriving DecidableEq, Repr

structure Command where
  word : String
  name : String
  description : String
  usage : String
  grammar : Grammar
  action : Action
  deriving DecidableEq, Repr

namespace Command

def add : Command where
  word := "add"
  name := "Add"
  description := "Adds an employee."
  usage := "add <field> <value> [<field> <value> ...]\n" ++
    "    every field of the schema must be given once\n" ++
    "    e.g. add id 12345 name \"Chen Xiaoyuan\" in_date 2022-06-05"
  grammar := ⟨.keyValue, some 1, none⟩
  action := .add

def delete : Command where
  word := "del"
  name := "Delete"
  description := "Deletes an employee."
  usage := "del <primary key value>\n" ++
    "    e.g. del 12345"
  grammar := ⟨.value, some 1, some 1⟩
  action := .delete

def get : Command where
  word := "get"
  name := "Get"
  description := "Gets the info of an employee."
  usage := "get <primary key value>\n" ++
    "    e.g. get 12345"
  grammar := ⟨.value, some 1, some 1⟩
  action := .get

def list : Command where
  word := "list"
  name := "List"
  description := "Lists employees, optionally filtered and sorted."
  usage := "list [<field> <value> ...] [$sort_asc <field>] [$sort_desc <field>] ...\n" ++
    "    filters are exact matches joined with AND;\n" ++
    "    the first sort directive is the primary order\n" ++
    "    e.g. list department P1 $sort_desc position $sort_asc name"
  grammar := ⟨.keyValue, none, none⟩
  action := .list

def modify : Command where
  word := "mod"
  name := "Modify"
  description := "Modifies an employee."
  usage := "mod <primary key> <value> <field> <value> [<field> <value> ...]\n" ++
    "    the primary key itself cannot be changed\n" ++
    "    e.g. mod id 12345 name hsiaoxychen"
  grammar := ⟨.keyValue, some 2, none⟩
  action := .modify

def help : Command where
  word := "help"
  name := "Help"
  description := "Shows this help message."
  usage := "help [<command>]"
  grammar := ⟨.value, none, some 1⟩
  action := .help

end Command

structure Registry where
  commands : List Command
  words_nodup : (commands.map Command.word).Nodup

namespace Registry

def builtin : Registry :=
  ⟨[.add, .delete, .get, .list, .modify, .help], by decide⟩

/-- The first word that comes a second time is refused. -/
def ofCommands (commands : List Command) : Except Error Registry :=
  match h : firstRepeated? [] (commands.map Command.word) with
  | some word => .error (.internal (.registeredTwice word))
  | none => .ok ⟨commands, (firstRepeated?_nil_eq_none_iff _).1 h⟩

def find (r : Registry) (word : String) : Except Error Command :=
  match r.commands.find? (·.word == word) with
  | some c => .ok c
  | none => .error (.commandNotFound word)

end Registry

end TableShell
