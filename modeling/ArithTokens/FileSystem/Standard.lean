import ArithTokens.FileSystem

/-!
# The system of a run

A table of what stands on one machine: its directories, some of its devices and programs, and the
files by which a program reaches its own standard input, its own files and the directory where it
runs. It is not complete, and on another machine it would have other entries. What is proved about
runs uses one fact of it, that the directory where they happen is there and holds nothing.
-/

namespace ArithTokens.FileSystem

/-- A name that no path can spell, for what has one that is not known beforehand. -/
def hiddenName : List Char := ['/']

/-- The names on the way down a path from the root. -/
def namesOf (path : String) : List (List Char) := (Location.behind [] path).reverse

/-- The way to the directory where a program runs, one of those for temporary files. -/
def temporaryHome : List (List Char) := namesOf "/tmp" ++ [hiddenName]

/-- The way to what is known of the running program. -/
def runningProgram : List (List Char) := namesOf "/proc" ++ [hiddenName]

/-- The way to what is known of the thread in which it runs. -/
def runningThread : List (List Char) := runningProgram ++ ["task".toList, hiddenName]

/-- The way to the stream from which the standard input comes. -/
def inputStream : List (List Char) := [hiddenName, "input".toList]

/-- The way to the streams to which output goes. -/
def outputStream : List (List Char) := [hiddenName, "output".toList]

/-- The way to the code of the running program. -/
def programCode : List (List Char) := [hiddenName, "code".toList]

/-- Directories of the machine. -/
def standardDirectories : List String :=
  ["/boot", "/dev", "/dev/pts", "/dev/shm", "/etc", "/etc/default", "/etc/init.d", "/etc/opt",
    "/home", "/media", "/mnt", "/opt", "/proc", "/proc/1", "/proc/fs", "/proc/irq", "/proc/sys",
    "/proc/sys/fs", "/proc/sys/kernel", "/proc/sys/net", "/proc/sys/vm", "/root", "/run",
    "/run/lock", "/srv", "/sys", "/sys/block", "/sys/bus", "/sys/class", "/sys/dev", "/sys/devices",
    "/sys/firmware", "/sys/fs", "/sys/kernel", "/sys/module", "/tmp", "/usr", "/usr/bin",
    "/usr/games", "/usr/include", "/usr/lib", "/usr/lib64", "/usr/local", "/usr/local/bin",
    "/usr/local/etc", "/usr/local/games", "/usr/local/include", "/usr/local/lib",
    "/usr/local/sbin", "/usr/local/share", "/usr/local/src", "/usr/sbin", "/usr/share", "/usr/src",
    "/var", "/var/backups", "/var/cache", "/var/lib", "/var/local", "/var/log", "/var/mail",
    "/var/opt", "/var/spool", "/var/tmp"]

/-- The directories in which a program or a thread finds what is known of it. -/
def ownDirectories : List String := ["attr", "fd", "fdinfo", "net", "ns", "task"]

/-- What a program or a thread finds of itself: its name, its memory, of which the start cannot be
read, its code, its streams, the root and the directory where it runs. -/
def ownFiles : List (String × Node) :=
  [("comm", .file "arith-lex\n".toUTF8),
    ("mem", .unreadable (.other "Input/output error" 5)), ("exe", .link programCode),
    ("fd/0", .link inputStream), ("fd/1", .link outputStream), ("fd/2", .link outputStream),
    ("root", .link []), ("cwd", .link temporaryHome)]

/-- Devices and programs of the machine: the device from which nothing is read, the terminal, which
is not there, and programs, which are no texts. -/
def standardFiles : List (String × Node) :=
  [("/dev/null", .file ByteArray.empty),
    ("/dev/tty", .unreadable (.other "No such device or address" 6)),
    ("/usr/bin/bash", .unreadable .notText), ("/usr/bin/cat", .unreadable .notText),
    ("/usr/bin/dash", .unreadable .notText), ("/usr/bin/env", .unreadable .notText),
    ("/usr/bin/ls", .unreadable .notText), ("/usr/bin/true", .unreadable .notText)]

/-- Links on the machine: to the directories of programs and libraries, to the shell, to what is
known of the running program, and to its streams. -/
def standardLinks : List (String × List (List Char)) :=
  [("/bin", namesOf "/usr/bin"), ("/lib", namesOf "/usr/lib"), ("/lib64", namesOf "/usr/lib64"),
    ("/sbin", namesOf "/usr/sbin"), ("/usr/bin/sh", namesOf "/usr/bin/dash"),
    ("/var/lock", namesOf "/run/lock"), ("/var/run", namesOf "/run"),
    ("/proc/self", runningProgram), ("/proc/thread-self", runningThread),
    ("/proc/net", namesOf "/proc/self/net"),
    ("/dev/fd", namesOf "/proc/self/fd"), ("/dev/stdin", namesOf "/proc/self/fd/0"),
    ("/dev/stdout", namesOf "/proc/self/fd/1"), ("/dev/stderr", namesOf "/proc/self/fd/2")]

/-- The entries for what is known of a program or a thread in its directory. -/
def ownEntries (directory : Location) : List (Location × Node) :=
  (ownFiles.map fun (path, node) => (directory.behind path, node)) ++
    ownDirectories.map fun path => (directory.behind path, .directory)

/-- The system of a run with this standard input, before any files are put into it. -/
def standard (input : ByteArray) : FileSystem where
  entries :=
    [(temporaryHome.reverse, .directory), (inputStream.reverse, .file input),
      (outputStream.reverse, .file ByteArray.empty),
      (programCode.reverse, .unreadable .notText)] ++
    (standardFiles.map fun (path, node) => (Location.behind [] path, node)) ++
    (standardLinks.map fun (path, target) => (Location.behind [] path, .link target)) ++
    ownEntries runningProgram.reverse ++ ownEntries runningThread.reverse ++
    standardDirectories.map fun path => (Location.behind [] path, .directory)
  home := temporaryHome.reverse
  unlimited := [Location.behind [] "/proc", Location.behind [] "/sys"]

end ArithTokens.FileSystem
