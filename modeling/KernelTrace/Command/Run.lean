import KernelTrace.Command.Dump
import KernelTrace.Command.Stats

namespace KernelTrace

def Invocation.run (invocation : Invocation) (files : Files) : Report :=
  match invocation.command with
  | .dump options => runDump files invocation.config options
  | .tasks trace => runTasks files invocation.config trace
  | .stats trace => runStats files invocation.config trace

def asText (lines : List String) : String := String.join (lines.map (· ++ "\n"))

namespace Report

def standardOutput (report : Report) : String := asText report.output

def standardError (report : Report) : String :=
  asText (report.notices ++ report.failure.toList.map Failure.lastWords)

def exitCode (report : Report) : UInt32 := report.failure.elim 0 Failure.exitCode

end Report

def versionText : String := "tracedeck 0.1.0"

def helpText : String :=
  asText
    ["Merge, filter and query per-CPU kernel trace events", "",
     "Usage: tracedeck [OPTIONS] <COMMAND>", "",
     "Commands:",
     "  dump   Print the merged entries of one or more traces",
     "  tasks  List the tasks observed in a trace",
     "  stats  Show per-CPU and per-event statistics for a trace",
     "  help   Print this message or the help of the given subcommand(s)", "",
     "Options:",
     "  -c, --config <CONFIG>  Session configuration file (JSON)",
     "  -h, --help             Print help",
     "  -V, --version          Print version"]

end KernelTrace
