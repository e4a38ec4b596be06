import LineScript.Files.Resolve
import LineScript.Platform.Standard

/-!
# The files of the standard platform
The directories that every machine has there, the programs in one of them, and the device that takes
everything and gives nothing.
-/
namespace LineScript.Files

/-- The location that an absolute path names, links and dots aside. -/
def locationOf (path : String) : Location := namesOf path

def standardDirectories : List String := [
  "/usr", "/usr/bin", "/usr/sbin", "/usr/lib", "/usr/local", "/usr/local/bin", "/usr/share",
  "/usr/games", "/tmp", "/etc", "/dev", "/home", "/root", "/var", "/var/tmp", "/proc", "/sys",
  "/opt", "/srv", "/mnt", "/media", "/boot", "/run"]

def standardLinks : List (String × String) := [
  ("/bin", "usr/bin"), ("/sbin", "usr/sbin"), ("/lib", "usr/lib")]

/-- The names of the programs that every machine has. -/
def standardPrograms : List String := [
  "sh", "dash", "bash", "sleep", "true", "false", "echo", "cat", "env", "pwd", "printf", "ls",
  "dir", "cp", "mv", "rm", "mkdir", "rmdir", "touch", "ln", "chmod", "chown", "date", "dd", "df",
  "du", "expr", "head", "id", "kill", "test", "[", "sort", "tail", "tee", "tr", "uname", "uniq",
  "wc", "which", "whoami", "yes", "grep", "sed", "awk", "find", "xargs", "basename", "dirname",
  "cut", "seq", "stat", "hostname", "tar", "gzip", "diff", "cmp", "install", "mktemp", "nohup",
  "nice", "od", "paste", "readlink", "realpath", "split", "stty", "sync", "timeout", "tty",
  "unlink", "who"]

def Tree.standard : Tree := ⟨
  (locationOf "/dev/null", .sink) ::
    standardDirectories.map (fun path => (locationOf path, .directory)) ++
    standardLinks.map (fun entry => (locationOf entry.1, .link entry.2)) ++
    standardPrograms.map (fun name => (locationOf "/usr/bin" ++ [name], .program name))⟩

end LineScript.Files
