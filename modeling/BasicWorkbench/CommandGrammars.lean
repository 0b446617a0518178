import BasicWorkbench.ArgumentReading
import BasicWorkbench.Catalog

namespace BasicWorkbench

def textLines (lines : List String) : Text := lines.flatMap fun line => line.toList ++ ['\n']

def helpOption : OptionRule := ⟨["-h", "--help"], .showHelp⟩

def textOption (name : Text) : OptionRule := ⟨[name], .value .any⟩

def commandNames : List Text := texts ["check", "compile", "c", "run", "r", "parse-output"]

def mainGrammarUsage : Text := textLines [
  "usage: smallbasic [-h] [-V] \x7bcheck,compile,c,run,r,parse-output\x7d ..."]

def mainGrammar : OptionGrammar where
  program := "smallbasic"
  usage := mainGrammarUsage
  help := mainGrammarUsage ++ textLines [
    "",
    "Small Basic - check, compile and run Small Basic programs",
    "",
    "positional arguments:",
    "  \x7bcheck,compile,c,run,r,parse-output\x7d",
    "                        Available commands",
    "    check               Check a Small Basic file for unclosed If/While/For/Sub",
    "                        blocks",
    "    compile (c)         Compile a Small Basic file with the Small Basic",
    "                        compiler",
    "    run (r)             Compile a Small Basic file and start the program",
    "    parse-output        Interpret a saved Small Basic compiler output log",
    "",
    "options:",
    "  -h, --help            show this help message and exit",
    "  -V, --version         show program's version number and exit"]
  version := "smallbasic 0.1.1\n"
  options := [helpOption,
    ⟨["-V", "--version"], .showVersion⟩]
  operand := .command "command" commandNames

def checkGrammarUsage : Text := textLines [
  "usage: smallbasic check [-h] input"]

def checkGrammar : OptionGrammar where
  program := "smallbasic check"
  usage := checkGrammarUsage
  help := checkGrammarUsage ++ textLines [
    "",
    "positional arguments:",
    "  input       Input Small Basic file (.sb)",
    "",
    "options:",
    "  -h, --help  show this help message and exit"]
  version := []
  options := [helpOption]
  operand := .argument "input"

def compileGrammarUsage : Text := textLines [
  "usage: smallbasic compile [-h] [--compiler COMPILER] [--raw] input"]

def compileGrammar : OptionGrammar where
  program := "smallbasic compile"
  usage := compileGrammarUsage
  help := compileGrammarUsage ++ textLines [
    "",
    "positional arguments:",
    "  input                Input Small Basic file (.sb)",
    "",
    "options:",
    "  -h, --help           show this help message and exit",
    "  --compiler COMPILER  Path to SmallBasicCompiler.exe (default:",
    "                       $SMALLBASIC_COMPILER or the standard install path)",
    "  --raw                Also print the compiler's raw output"]
  version := []
  options := [helpOption,
    textOption "--compiler",
    ⟨["--raw"], .switch⟩]
  operand := .argument "input"

def runGrammarUsage : Text := textLines [
  "usage: smallbasic run [-h] [--compiler COMPILER] input"]

def runGrammar : OptionGrammar where
  program := "smallbasic run"
  usage := runGrammarUsage
  help := runGrammarUsage ++ textLines [
    "",
    "positional arguments:",
    "  input                Input Small Basic file (.sb)",
    "",
    "options:",
    "  -h, --help           show this help message and exit",
    "  --compiler COMPILER  Path to SmallBasicCompiler.exe"]
  version := []
  options := [helpOption,
    textOption "--compiler"]
  operand := .argument "input"

def reportGrammarUsage : Text := textLines [
  "usage: smallbasic parse-output [-h] [--source SOURCE] log"]

def reportGrammar : OptionGrammar where
  program := "smallbasic parse-output"
  usage := reportGrammarUsage
  help := reportGrammarUsage ++ textLines [
    "",
    "positional arguments:",
    "  log              File containing the compiler's output",
    "",
    "options:",
    "  -h, --help       show this help message and exit",
    "  --source SOURCE  The compiled source file, used to locate errors without a",
    "                   line number"]
  version := []
  options := [helpOption,
    textOption "--source"]
  operand := .argument "log"

def levelNames : List Text := texts ["debug", "info", "warning", "error"]

def serverGrammarUsage : Text := textLines [
  "usage: smallbasic-lsp [-h] [--tcp] [--host HOST] [--port PORT]",
  "                      [--log-level \x7bdebug,info,warning,error\x7d]"]

def serverGrammar : OptionGrammar where
  program := "smallbasic-lsp"
  usage := serverGrammarUsage
  help := serverGrammarUsage ++ textLines [
    "",
    "Small Basic Language Server",
    "",
    "options:",
    "  -h, --help            show this help message and exit",
    "  --tcp                 Start server in TCP mode instead of stdio",
    "  --host HOST           Host to bind to in TCP mode (default: 127.0.0.1)",
    "  --port PORT           Port to listen on in TCP mode (default: 2087)",
    "  --log-level \x7bdebug,info,warning,error\x7d",
    "                        Logging level (default: info)"]
  version := []
  options := [helpOption,
    ⟨["--tcp"], .switch⟩,
    textOption "--host",
    ⟨["--port"], .value .integer⟩,
    ⟨["--log-level"], .value (.oneOf levelNames)⟩]
  operand := .nothing

end BasicWorkbench
