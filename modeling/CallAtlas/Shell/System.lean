/-!
# What every system has

Some paths lead to the same things on every system : directories, files, devices, and the programs
that are installed. They are not part of the file system that is worked on.
-/

namespace CallAtlas.Shell.System

/-- Directories. -/
def directories : List String :=
  ["/", "/bin", "/boot", "/dev", "/dev/shm", "/etc", "/home", "/lib", "/media", "/mnt", "/opt",
    "/proc", "/root", "/run", "/sbin", "/srv", "/sys", "/tmp", "/usr", "/usr/bin", "/usr/lib",
    "/usr/local", "/usr/local/bin", "/usr/sbin", "/usr/share", "/var", "/var/tmp"]

/-- The directory for what is needed for a while. -/
def temporary : String :=
  "/tmp"

/-- Files that are no programs. -/
def files : List String :=
  ["/etc/fstab", "/etc/group", "/etc/hostname", "/etc/hosts", "/etc/issue", "/etc/passwd",
    "/etc/profile", "/etc/resolv.conf", "/etc/shadow"]

/-- Devices. -/
def devices : List String :=
  ["/dev/full", "/dev/null", "/dev/random", "/dev/tty", "/dev/urandom", "/dev/zero"]

/-- Streams that have a path. -/
def streams : List (String × Nat) :=
  [("/dev/stdin", 0), ("/dev/stdout", 1), ("/dev/stderr", 2), ("/dev/fd/0", 0), ("/dev/fd/1", 1),
    ("/dev/fd/2", 2), ("/proc/self/fd/0", 0), ("/proc/self/fd/1", 1), ("/proc/self/fd/2", 2)]

/-- The names of the shell. -/
def shells : List String :=
  ["sh", "dash", "bash"]

/-- The program that runs another with changed variables. -/
def environmentRunner : String :=
  "env"

/-- The names of the utilities. -/
def utilities : List String :=
  ["true", "false", "sleep", "echo", "printf", "test", "[", "pwd", "cat", "tee", "wc", "tr", "head",
    "tail", "cut", "sort", "uniq", "tac", "rev", "seq", "mkdir", "touch", "rm", "rmdir", "cp", "mv",
    "chmod", "ls", "dd", "basename", "dirname", "grep", "sed", "expr", "mktemp"]

/-- The names of the programs that are installed. -/
def programs : List String :=
  environmentRunner :: shells ++ utilities

/-- The directory where programs are found. -/
def programDirectory : String :=
  "/usr/bin"

/-- The program at a path. -/
def programAt? (path : String) : Option String :=
  programs.find? fun name => path == "/bin/" ++ name || path == programDirectory ++ "/" ++ name

/-- Whether a path leads to something that is no program. -/
def isOther (path : String) : Bool :=
  directories.contains path || files.contains path || devices.contains path

end CallAtlas.Shell.System
