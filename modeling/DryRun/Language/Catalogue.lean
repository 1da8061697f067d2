import DryRun.Language.Basic

/-!
# The known languages

One definition per language, and the catalogue that lists them with the words by which a tag may
name them. The order of the catalogue matters: `typescript` and `javascript` come before `java`,
whose fragment they contain.
-/

set_option autoImplicit false

namespace DryRun.Language

def python : Language where
  id := "python"
  displayName := "Python"
  outputForms :=
    [⟨.call, "print", .lineStart⟩]
  bannerLines :=
    [[.literal "Python 3.10.0 [GCC 11.2.0] on linux"], [.literal ">>> python3 ", .slot "source"]]
  extension := ".py"
  helpers :=
    ["def", "print()", "return", "if", "else:", "elif", "for", "in", "while", "True", "False",
     "None", "import", "class"]

def javascript : Language where
  id := "javascript"
  displayName := "JavaScript"
  outputForms :=
    [⟨.call, "console.log", .lineStart⟩]
  bannerLines :=
    [[.literal "> node ", .slot "source"]]
  extension := ".js"
  entryPoint := "index"
  helpers :=
    ["function", "const", "let", "var", "console.log()", "return", "if", "else", "=>", "true",
     "false", "null", "import"]

def typescript : Language where
  id := "typescript"
  displayName := "TypeScript"
  outputForms :=
    [⟨.call, "console.log", .lineStart⟩]
  bannerLines :=
    [[.literal "> tsc ", .slot "source", .literal " && node ", .slot "binary", .literal ".js"]]
  extension := ".ts"
  helpers :=
    ["interface", "type", "const", "let", "console.log()", "return", "number", "string",
     "boolean", "any", "void"]

def java : Language where
  id := "java"
  displayName := "Java"
  outputForms :=
    [⟨.call, "System.out.println", .anywhere⟩, ⟨.call, "System.out.print", .anywhere⟩]
  bannerLines :=
    [[.literal "> javac ", .slot "source"], [.literal "> java ", .slot "binary"]]
  extension := ".java"
  entryPoint := "Main"
  compileDelay := Settings.compiledDelay
  helpers :=
    ["public", "class", "static", "void", "main", "System.out.println()", "int", "String", "new",
     "return", "if", "else"]

def kotlin : Language where
  id := "kotlin"
  displayName := "Kotlin"
  outputForms :=
    [⟨.call, "println", .lineStart⟩, ⟨.call, "print", .lineStart⟩]
  bannerLines :=
    [[.literal "> kotlinc ", .slot "source", .literal " -include-runtime -d ", .slot "binary",
      .literal ".jar"],
     [.literal "> java -jar ", .slot "binary", .literal ".jar"]]
  extension := ".kt"
  entryPoint := "Main"
  compileDelay := Settings.compiledDelay
  helpers :=
    ["fun", "val", "var", "println()", "class", "data class", "if", "else", "when", "return",
     "null"]

def scala : Language where
  id := "scala"
  displayName := "Scala"
  outputForms :=
    [⟨.call, "println", .lineStart⟩]
  bannerLines :=
    [[.literal "> scala-cli run ", .slot "source"]]
  extension := ".scala"
  entryPoint := "Main"
  compileDelay := Settings.compiledDelay
  helpers :=
    ["object", "def", "val", "var", "println()", "case class", "match"]

def csharp : Language where
  id := "csharp"
  displayName := "C#"
  outputForms :=
    [⟨.call, "Console.WriteLine", .anywhere⟩, ⟨.call, "Console.Write", .anywhere⟩]
  bannerLines :=
    [[.literal "> dotnet build"], [.literal "> dotnet run"]]
  extension := ".cs"
  entryPoint := "Program"
  compileDelay := Settings.compiledDelay
  helpers :=
    ["using", "System;", "class", "public", "static", "void", "Main", "Console.WriteLine()",
     "int", "string", "new"]

def cpp : Language where
  id := "cpp"
  displayName := "C++"
  outputForms :=
    [⟨.stream, "cout", .wordStart⟩, ⟨.call, "printf", .wordStart⟩]
  bannerLines :=
    [[.literal "> g++ -o ", .slot "binary", .literal " ", .slot "source"],
     [.literal "> ./", .slot "binary"]]
  extension := ".cpp"
  compileDelay := Settings.compiledDelay
  helpers :=
    ["#include", "using namespace std;", "int main()", "cout <<", "cin >>", "return 0;", "class",
     "public:", "private:", "void"]

def c : Language where
  id := "c"
  displayName := "C"
  outputForms :=
    [⟨.call, "printf", .wordStart⟩, ⟨.call, "puts", .wordStart⟩]
  bannerLines :=
    [[.literal "> gcc -o ", .slot "binary", .literal " ", .slot "source"],
     [.literal "> ./", .slot "binary"]]
  extension := ".c"
  compileDelay := Settings.compiledDelay
  helpers :=
    ["#include <stdio.h>", "int main()", "printf()", "return 0;", "char", "int"]

def go : Language where
  id := "go"
  displayName := "Go"
  outputForms :=
    [⟨.call, "fmt.Println", .anywhere⟩, ⟨.call, "fmt.Printf", .anywhere⟩,
     ⟨.call, "fmt.Print", .anywhere⟩]
  bannerLines :=
    [[.literal "> go build ", .slot "source"], [.literal "> ./", .slot "binary"]]
  extension := ".go"
  compileDelay := Settings.compiledDelay
  helpers :=
    ["func", "package", "main", "import", "fmt.Println()", "var", "type", "struct", "return",
     "if", "else"]

def rust : Language where
  id := "rust"
  displayName := "Rust"
  outputForms :=
    [⟨.call, "println!", .wordStart⟩, ⟨.call, "print!", .wordStart⟩]
  bannerLines :=
    [[.literal "   Compiling playground v0.1.0 (/playground)"],
     [.literal "    Finished dev [unoptimized + debuginfo] target(s) in 0.65s"],
     [.literal "     Running `target/debug/playground`"]]
  extension := ".rs"
  compileDelay := Settings.compiledDelay
  helpers :=
    ["fn", "let", "mut", "pub", "use", "mod", "struct", "enum", "impl", "println!()", "match",
     "Option", "Result"]

def swift : Language where
  id := "swift"
  displayName := "Swift"
  outputForms :=
    [⟨.call, "print", .lineStart⟩]
  bannerLines :=
    [[.literal "> swiftc ", .slot "source", .literal " -o ", .slot "binary"],
     [.literal "> ./", .slot "binary"]]
  extension := ".swift"
  compileDelay := Settings.compiledDelay
  helpers :=
    ["func", "let", "var", "print()", "struct", "class", "guard", "if let"]

def ruby : Language where
  id := "ruby"
  displayName := "Ruby"
  outputForms :=
    [⟨.call, "puts", .lineStart⟩, ⟨.statement, "puts", .lineStart⟩,
     ⟨.statement, "print", .lineStart⟩]
  bannerLines :=
    [[.literal "> ruby ", .slot "source"]]
  extension := ".rb"
  helpers :=
    ["def", "end", "puts", "do", "if", "elsif", "class", "nil"]

def php : Language where
  id := "php"
  displayName := "PHP"
  outputForms :=
    [⟨.statement, "echo", .lineStart⟩, ⟨.call, "print", .wordStart⟩]
  bannerLines :=
    [[.literal "> php ", .slot "source"]]
  extension := ".php"
  entryPoint := "index"
  helpers :=
    ["<?php", "echo", "$", "function", "return", "array()", "foreach"]

def dart : Language where
  id := "dart"
  displayName := "Dart"
  outputForms :=
    [⟨.call, "print", .lineStart⟩]
  bannerLines :=
    [[.literal "> dart run ", .slot "source"]]
  extension := ".dart"
  helpers :=
    ["void main()", "var", "final", "const", "print()", "String", "int"]

def sql : Language where
  id := "sql"
  displayName := "SQL"
  outputForms :=
    []
  bannerLines :=
    [[.literal "SQLite version 3.39.3 2022-09-05"],
     [.literal "Enter \x22.help\x22 for usage hints."], [.literal "sqlite> -- Executing Query"]]
  extension := ".sql"
  entryPoint := "query"
  helpers :=
    ["SELECT", "FROM", "WHERE", "INSERT INTO", "VALUES", "UPDATE", "SET", "DELETE", "JOIN", "ON",
     "GROUP BY", "ORDER BY"]
  engine := .sql
  successMarkers := ["found", "ok"]
  hasExitTrailer := false

/-- A language and the words that name it. -/
structure Listing where
  language : Language
  /-- Texts that name it wherever they stand in a tag. -/
  fragments : List String
  /-- Texts that name it as a whole tag or as a word of one. -/
  aliases : List String

/-- All known languages, in the order in which they claim a tag. -/
def catalogue : List Listing :=
  [⟨typescript, ["typescript"], ["ts"]⟩,
   ⟨javascript, ["script", "node"], ["js"]⟩,
   ⟨kotlin, ["kotlin"], ["kt"]⟩,
   ⟨scala, ["scala"], []⟩,
   ⟨java, ["java"], []⟩,
   ⟨csharp, ["c#", "csharp", "c-sharp", "dotnet"], ["cs"]⟩,
   ⟨cpp, ["c++", "cpp"], []⟩,
   ⟨python, ["python"], ["py"]⟩,
   ⟨rust, ["rust"], ["rs"]⟩,
   ⟨go, ["golang"], ["go"]⟩,
   ⟨swift, ["swift"], []⟩,
   ⟨ruby, ["ruby"], ["rb"]⟩,
   ⟨php, ["php"], []⟩,
   ⟨dart, ["dart", "flutter"], []⟩,
   ⟨sql, ["sql"], []⟩,
   ⟨c, [], ["c"]⟩]

/-- The language of a tag that names none. -/
def fallback : Language := javascript

end DryRun.Language
