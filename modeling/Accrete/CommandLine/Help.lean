/-!
# Help

How each command is used, as it is shown to those who ask.
-/

namespace Accrete.CommandLine

/-- A command that can be asked about. -/
inductive Topic where
  | overview | migrate | init | plan | sql | up
deriving DecidableEq, Repr

/-- Lines joined to a text, each ended by a line feed. -/
def paragraph (lines : List String) : String := String.join (lines.map (· ++ "\n"))

namespace Topic

/-- The lines about the options that the planning commands share. -/
def sharedLines : List String :=
  ["options:",
   "  -h, --help            show this help message and exit",
   "  -c CONFIG, --config CONFIG",
   "                        Path to schemakit.ini",
   "  --url URL             Database URL (overrides config)",
   "  -s SCHEMA, --schema SCHEMA",
   "                        Python module containing table fragments (e.g.,",
   "                        'app.schema')",
   "  --dialect DIALECT     Target dialect (overrides config)"]

def lines : Topic → List String
  | .overview =>
    ["usage: schemakit [-h] [--log-level LOG_LEVEL] \x7bmigrate\x7d ...",
     "",
     "SchemaKit - additive, multi-dialect schema migrations",
     "",
     "positional arguments:",
     "  \x7bmigrate\x7d             Available commands",
     "    migrate             Database migration commands",
     "",
     "options:",
     "  -h, --help            show this help message and exit",
     "  --log-level LOG_LEVEL",
     "                        Logging level (overrides log_level in schemakit.ini)"]
  | .migrate =>
    ["usage: schemakit migrate [-h] \x7binit,plan,sql,up\x7d ...",
     "",
     "positional arguments:",
     "  \x7binit,plan,sql,up\x7d  Migration commands",
     "    init              Create a schemakit.ini",
     "    plan              Show the tables and columns that would be created",
     "    sql               Print the SQL that would be executed",
     "    up                Apply the migrations",
     "",
     "options:",
     "  -h, --help          show this help message and exit"]
  | .init =>
    ["usage: schemakit migrate init [-h] [-d DIRECTORY] [--url URL]",
     "",
     "options:",
     "  -h, --help            show this help message and exit",
     "  -d DIRECTORY, --directory DIRECTORY",
     "                        Target directory (default: current directory)",
     "  --url URL             Database URL to configure"]
  | .plan =>
    ["usage: schemakit migrate plan [-h] [-c CONFIG] [--url URL] [-s SCHEMA]",
     "                              [--dialect DIALECT]",
     ""] ++ sharedLines
  | .sql =>
    ["usage: schemakit migrate sql [-h] [-c CONFIG] [--url URL] [-s SCHEMA]",
     "                             [--dialect DIALECT] [-o OUTPUT]",
     ""] ++ sharedLines ++
    ["  -o OUTPUT, --output OUTPUT",
     "                        Write the SQL to this file instead of stdout"]
  | .up =>
    ["usage: schemakit migrate up [-h] [-c CONFIG] [--url URL] [-s SCHEMA]",
     "                            [--dialect DIALECT] [-y]",
     ""] ++ sharedLines ++
    ["  -y, --yes             Apply without asking for confirmation"]

def page (t : Topic) : String := paragraph t.lines

end Topic

end Accrete.CommandLine
