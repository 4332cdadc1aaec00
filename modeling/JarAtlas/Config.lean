import JarAtlas.Binary64
import JarAtlas.Path

/-!
# Configuration

Where the external tools are and how long each may take.
-/

namespace JarAtlas

/-- The variables of a process's environment. -/
abbrev Environment := List (Text × Text)

/-- The value of a variable. -/
def Environment.get? (environment : Environment) (name : Text) : Option Text :=
  (environment.find? fun (other, _) => other == name).map Prod.snd

/-- The value of a variable that is set to more than nothing. -/
def Environment.nonEmpty? (environment : Environment) (name : Text) : Option Text :=
  (environment.get? name).filter (!·.isEmpty)

/-- A configuration. Times are in seconds. -/
structure Config where
  javaHome : Option Text
  mavenHome : Option Text
  mavenRepository : Option Text
  cfrPath : Option Text
  classpath : Text
  javapTimeout : Binary64
  cfrTimeout : Binary64
  mavenTimeout : Binary64
  showPrivate : Bool
  maxWorkers : Int
  extraCfrDirectories : List Text
deriving Repr

namespace Config

/-- The configuration without any setting. -/
def standard : Config :=
  { javaHome := none
    mavenHome := none
    mavenRepository := none
    cfrPath := none
    classpath := []
    javapTimeout := .ofInt 10
    cfrTimeout := .ofInt 30
    mavenTimeout := .ofInt 60
    showPrivate := true
    maxWorkers := 4
    extraCfrDirectories := [] }

/-- The configuration that the environment gives. -/
def ofEnvironment (environment : Environment) : Config :=
  { standard with
    javaHome := environment.nonEmpty? "JAVA_HOME"
    mavenHome := environment.nonEmpty? "MAVEN_HOME"
    mavenRepository := environment.nonEmpty? "MAVEN_REPO"
    cfrPath := environment.nonEmpty? "CFR_PATH"
    classpath := (environment.get? "CLASSPATH").getD [] }

/-- The home directory: the variable without the slashes at its end, or the root if nothing else is
in it. There is none when the variable is missing or begins with a tilde. -/
def homeDirectory? (environment : Environment) : Option Path :=
  match environment.get? "HOME" with
  | none => none
  | some home =>
    let home := (home.reverse.dropWhile (· = '/')).reverse
    if home.head? = some '~' then none
    else some (Path.ofText (if home.isEmpty then "/" else home))

/-- The local repository: the configured one, or the usual place under the home directory. -/
def repository? (config : Config) (environment : Environment) : Option Path :=
  match config.mavenRepository.filter (!·.isEmpty) with
  | some repository => some (.ofText repository)
  | none => (homeDirectory? environment).map fun home => (home.join ".m2").join "repository"

end Config

end JarAtlas
