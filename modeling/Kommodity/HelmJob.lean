import Kommodity.GoSeparator
import Kommodity.Interaction
import Kommodity.SecretStorage

/-! The Helm install job: the template `job.tmpl` as data, what it renders to, and how the rendered text
is cut into documents that are decoded and applied. The decoder of YAML documents is a parameter. -/
namespace Kommodity.HelmJob

open Go Interaction Secrets

structure Chart where
  name : String
  version : String
  repository : String

structure Condition where
  defined : Bool
  kind : String
  matchLabels : Map String String

structure Config where
  name : String
  namespaceName : String
  chart : Chart
  installMode : String
  condition : Condition
  upgradeDisabled : Bool
  hasExtraValues : Bool

def installModeHelmInstall : String := "HelmInstall"

def newHelmInstallConfig (name namespaceName chartName chartVersion chartRepository : String)
    (hasExtraValues : Bool) : Config where
  name
  namespaceName
  chart := ⟨chartName,chartVersion,chartRepository⟩
  condition := ⟨false,"",∅⟩
  installMode := installModeHelmInstall
  upgradeDisabled := true
  hasExtraValues

/-- `default` of sprig: an empty value is replaced, and `false` is empty. -/
def defaultText (replacement given : String) : String := if given = "" then replacement else given

@[inherit_doc defaultText]
def defaultFlag (replacement given : Bool) : Bool := if given = false then replacement else given

/-- The characters that `html/template` escapes in text, with what it writes for them. -/
def htmlReplacement : List (Char × String) :=
  [(Char.ofNat 0,"\uFFFD"),('"',"&#34;"),('&',"&amp;"),(Char.ofNat 39,"&#39;"),('+',"&#43;"),('<',"&lt;"),
   ('>',"&gt;")]

def escapeRune (c : Char) : List Char := ((htmlReplacement.lookup c).map String.toList).getD [c]

def htmlEscape (s : String) : String := String.ofList (s.toList.flatMap escapeRune)

/-- `strings.ReplaceAll(version, ".", "-")`. -/
def dashed (version : String) : String :=
  String.ofList (version.toList.map fun c => if c = '.' then '-' else c)

def Config.getFullName (c : Config) : String := c.name ++ "-" ++ dashed c.chart.version

/-- `$namespace` of the template. -/
def Config.targetNamespace (c : Config) : String := defaultText c.name c.namespaceName

/-- The actions of the template that print something. -/
inductive Field where
  | name
  | fullName
  | namespaceName
  | version
  | repository
  | chartName
  | installMode
  | upgradeDisable
  | conditionDefined
  | conditionKind
  | conditionLabels
  deriving DecidableEq

/-- A line of the template: text, at most one action, and text. -/
structure Line where
  before : String
  action : Option Field
  after : String
  deriving DecidableEq

def Line.fixed (text : String) : Line := ⟨text,none,""⟩

def Line.render (value : Field → String) (line : Line) : String :=
  line.before ++ line.action.elim "" value ++ line.after

/-- The lines that every manifest begins with. -/
def header (version kind : String) : List Line :=
  [.fixed ("apiVersion: " ++ version),.fixed ("kind: " ++ kind),.fixed "metadata:"]

/-- The ClusterRoleBinding below its header. -/
def clusterRoleBinding : List Line :=
  [⟨"  name: ",some .name,"-install"⟩,.fixed "roleRef:",.fixed "  apiGroup: rbac.authorization.k8s.io",
   .fixed "  kind: ClusterRole",.fixed "  name: cluster-admin",.fixed "subjects:",
   .fixed "- kind: ServiceAccount",⟨"  name: ",some .fullName,"-install"⟩,
   ⟨"  namespace: ",some .namespaceName,""⟩]

/-- The ServiceAccount below its header. -/
def serviceAccount : List Line :=
  [⟨"  name: ",some .fullName,"-install"⟩,⟨"  namespace: ",some .namespaceName,""⟩]

def placement : List String :=
  ["    spec:","      restartPolicy: OnFailure","      tolerations:","        - operator: Exists",
   "        - effect: NoSchedule","          operator: Exists","        - effect: NoExecute",
   "          operator: Exists","        - effect: PreferNoSchedule","          operator: Exists",
   "        - key: node-role.kubernetes.io/control-plane","          operator: Exists",
   "          effect: NoSchedule","        - key: node-role.kubernetes.io/control-plane",
   "          operator: Exists","          effect: NoExecute",
   "        - key: node-role.kubernetes.io/control-plane","          operator: Exists",
   "          effect: PreferNoSchedule","      affinity:","        nodeAffinity:",
   "          requiredDuringSchedulingIgnoredDuringExecution:","            nodeSelectorTerms:",
   "              - matchExpressions:","                  - key: node-role.kubernetes.io/control-plane",
   "                    operator: Exists"]

/-- The names and labels of the Job. -/
def jobMetadata : List Line :=
  [⟨"  name: ",some .fullName,"-install"⟩,⟨"  namespace: ",some .namespaceName,""⟩,.fixed "spec:",
   .fixed "  backoffLimit: 10",.fixed "  ttlSecondsAfterFinished: 3600",.fixed "  manualSelector: true",
   .fixed "  selector:",.fixed "    matchLabels:",
   ⟨"      app.kubernetes.io/app: ",some .fullName,"-install"⟩,.fixed "  template:",.fixed "    metadata:",
   .fixed "      labels:",⟨"        kommodity.io/addon-name: ",some .name,""⟩,
   ⟨"        kommodity.io/addon-version: ",some .version,""⟩,
   .fixed "        app.kubernetes.io/managed-by: kommodity",
   ⟨"        app.kubernetes.io/app: ",some .fullName,"-install"⟩]

def accountNames : List Line :=
  [⟨"      serviceAccount: ",some .fullName,"-install"⟩,
   ⟨"      serviceAccountName: ",some .fullName,"-install"⟩]

def hostNetwork : List Line := [.fixed "      hostNetwork: true"]

def extraValuesVolume : List Line :=
  [.fixed "      volumes:",.fixed "        - name: extra-values",.fixed "          secret:",
   ⟨"            secretName: ",some .name,"-extra-values"⟩]

def container : List Line :=
  [.fixed "      containers:",⟨"        - name: ",some .fullName,"-install"⟩,
   .fixed "          image: alpine/k8s:1.34.1"]

def extraValuesMount : List Line :=
  [.fixed "          volumeMounts:",.fixed "            - name: extra-values",
   ⟨"              mountPath: /etc/",some .fullName,""⟩]

def serviceHost : List Line :=
  [.fixed "          env:",.fixed "            - name: KUBERNETES_SERVICE_HOST",
   .fixed "              valueFrom:",.fixed "                fieldRef:",
   .fixed "                  apiVersion: v1",.fixed "                  fieldPath: status.podIP",
   .fixed "            - name: KUBERNETES_SERVICE_PORT",.fixed "              value: \"6443\""]

def command : List Line :=
  [.fixed "          command:",.fixed "            - /bin/sh",.fixed "            - -c",.fixed "            - |"]

/-- The Job between its header and its script. -/
def jobHead (kubeSystem extraValues : Bool) : List Line :=
  jobMetadata ++ placement.map .fixed ++ accountNames ++ (if kubeSystem then hostNetwork else []) ++
    (if extraValues then extraValuesVolume else []) ++ container ++
    (if extraValues then extraValuesMount else []) ++ (if kubeSystem then serviceHost else []) ++ command

/-- The script from the line after its settings on. -/
def installation : List String :=
  ["HELM_EXTRA_VALUES=\"\"",
   "if [ -f \"$\x7bHELM_EXTRA_VALUES_FILE\x7d\" ]; then",
   "  HELM_EXTRA_VALUES=\"-f $\x7bHELM_EXTRA_VALUES_FILE\x7d\"",
   "fi",
   "",
   "echo \"Addon: $\x7bRELEASE\x7d\"",
   "echo \"Install Mode: $\x7bINSTALL_MODE\x7d\"",
   "echo \"Repository: $\x7bREPOSITORY\x7d\"",
   "echo \"Chart: $\x7bCHART\x7d\"",
   "echo \"Version: $\x7bVERSION\x7d\"",
   "echo \"Upgrade Disable: $\x7bUPGRADE_DISABLE\x7d\"",
   "",
   "# When upgrade.disable=true, decide early if we should skip",
   "if [ \"$\x7bUPGRADE_DISABLE\x7d\" = \"true\" ]; then",
   "  # For KubectlApply + upgrade.disable=true we *require* a condition",
   "  if [ \"$\x7bINSTALL_MODE\x7d\" = \"KubectlApply\" ] " ++
     "&& [ \"$\x7bCONDITION_DEFINED\x7d\" != \"true\" ]; then",
   "    echo \"Error: condition must be defined for KubectlApply install mode when upgrade.disable=true\"",
   "    exit 1",
   "  fi",
   "",
   "  # If a condition is defined, use it to detect an existing installation",
   "  if [ \"$\x7bCONDITION_DEFINED\x7d\" = \"true\" ] && kubectl -n \"$\x7bNAMESPACE\x7d\" get " ++
     "\"$\x7bCONDITION_KIND\x7d\" $\x7bCONDITION_LABELS\x7d --no-headers 2>/dev/null | grep -q .; then",
   "    echo \"Skipping installation of addon $\x7bRELEASE\x7d " ++
     "due to upgrade.disable=true and existing installation\"",
   "    exit 0",
   "  fi",
   "",
   "  # Check if a Helm release already exists",
   "  if [ \"$\x7bINSTALL_MODE\x7d\" = \"HelmInstall\" ] " ++
     "&& helm ls -n \"$\x7bNAMESPACE\x7d\" | grep -q \"^$\x7bRELEASE\x7d \"; then",
   "    echo \"Addon $\x7bRELEASE\x7d is already installed, " ++
     "skipping installation due to upgrade.disable=true\"",
   "    exit 0",
   "  fi",
   "fi",
   "",
   "# Actually install, depending on mode and OCI/non-OCI",
   "if [ \"$\x7bINSTALL_MODE\x7d\" = \"KubectlApply\" ]; then",
   "  # Render manifests with Helm, apply with kubectl",
   "  if echo \"$\x7bREPOSITORY\x7d\" | grep -q '^oci://'; then",
   "    # OCI: full ref is repo + chart name",
   "    CHART_REF=\"$\x7bREPOSITORY\x7d/$\x7bCHART\x7d\"",
   "    echo \"Rendering OCI chart $\x7bCHART_REF\x7d and applying with kubectl\"",
   "    helm template \"$\x7bRELEASE\x7d\" \"$\x7bCHART_REF\x7d\" \\",
   "      --namespace \"$\x7bNAMESPACE\x7d\" \\",
   "      --version \"$\x7bVERSION\x7d\" \\",
   "      $\x7bHELM_EXTRA_VALUES\x7d \\",
   "    | kubectl apply --server-side -f -",
   "  else",
   "    # Non-OCI: use --repo",
   "    echo \"Rendering chart $\x7bCHART\x7d from repo $\x7bREPOSITORY\x7d and applying with kubectl\"",
   "    helm template \"$\x7bRELEASE\x7d\" \"$\x7bCHART\x7d\" \\",
   "      --namespace \"$\x7bNAMESPACE\x7d\" \\",
   "      --repo \"$\x7bREPOSITORY\x7d\" \\",
   "      --version \"$\x7bVERSION\x7d\" \\",
   "      $\x7bHELM_EXTRA_VALUES\x7d \\",
   "    | kubectl apply --server-side -f -",
   "  fi",
   "else",
   "  # Default: HelmInstall (helm upgrade --install)",
   "  if echo \"$\x7bREPOSITORY\x7d\" | grep -q '^oci://'; then",
   "    # OCI: full ref is repo + chart name",
   "    CHART_REF=\"$\x7bREPOSITORY\x7d/$\x7bCHART\x7d\"",
   "    echo \"Installing OCI chart $\x7bCHART_REF\x7d\"",
   "    helm upgrade --install \"$\x7bRELEASE\x7d\" \"$\x7bCHART_REF\x7d\" \\",
   "      --namespace \"$\x7bNAMESPACE\x7d\" \\",
   "      --version \"$\x7bVERSION\x7d\" \\",
   "      $\x7bHELM_EXTRA_VALUES\x7d",
   "  else",
   "    # Non-OCI: use --repo",
   "    echo \"Installing chart $\x7bCHART\x7d from repo $\x7bREPOSITORY\x7d\"",
   "    helm upgrade --install \"$\x7bRELEASE\x7d\" \"$\x7bCHART\x7d\" \\",
   "      --namespace \"$\x7bNAMESPACE\x7d\" \\",
   "      --repo \"$\x7bREPOSITORY\x7d\" \\",
   "      --version \"$\x7bVERSION\x7d\" \\",
   "      $\x7bHELM_EXTRA_VALUES\x7d",
   "  fi",
   "fi"]

/-- The script of the Job, without its indentation. -/
def script : List Line :=
  [.fixed "set -eu",.fixed "",⟨"REPOSITORY=\"",some .repository,"\""⟩,⟨"CHART=\"",some .chartName,"\""⟩,
   ⟨"VERSION=\"",some .version,"\""⟩,⟨"RELEASE=\"",some .name,"\""⟩,
   ⟨"INSTALL_MODE=\"",some .installMode,"\""⟩,⟨"UPGRADE_DISABLE=\"",some .upgradeDisable,"\""⟩,
   ⟨"NAMESPACE=\"",some .namespaceName,"\""⟩,⟨"CONDITION_DEFINED=\"",some .conditionDefined,"\""⟩,
   ⟨"CONDITION_KIND=\"",some .conditionKind,"\""⟩,⟨"CONDITION_LABELS=\"",some .conditionLabels,"\""⟩,
   .fixed "",⟨"HELM_EXTRA_VALUES_FILE=\"/etc/",some .fullName,"/values.yaml\""⟩] ++
  installation.map .fixed

/-- Lines of the script stand 14 columns in; those without text have no blanks either. -/
def indent (line : String) : String := if line = "" then "" else "              " ++ line

/-- The range over the labels goes by their keys in order. -/
def Condition.labels (condition : Condition) : String :=
  join ((condition.matchLabels.entries.mergeSort fun a b => a.1 ≤ b.1).map fun e =>
    "-l " ++ htmlEscape e.1 ++ "=" ++ htmlEscape e.2 ++ " ") ""

def Config.value (c : Config) : Field → String
  | .name => htmlEscape c.name
  | .fullName => htmlEscape c.getFullName
  | .namespaceName => htmlEscape c.targetNamespace
  | .version => htmlEscape c.chart.version
  | .repository => htmlEscape c.chart.repository
  | .chartName => htmlEscape c.chart.name
  | .installMode => htmlEscape (defaultText "HelmInstall" c.installMode)
  | .upgradeDisable => toString (defaultFlag true c.upgradeDisabled)
  | .conditionDefined => toString (defaultFlag false c.condition.defined)
  | .conditionKind => htmlEscape (defaultText "Deployment" c.condition.kind)
  | .conditionLabels => c.condition.labels

def renderLines (value : Field → String) (lines : List Line) : List String := lines.map (Line.render value)

def bindingLines (value : Field → String) : List String :=
  renderLines value (header "rbac.authorization.k8s.io/v1" "ClusterRoleBinding" ++ clusterRoleBinding)

def accountLines (value : Field → String) : List String :=
  renderLines value (header "v1" "ServiceAccount" ++ serviceAccount)

/-- The lines of a Job with the given script. -/
def jobLines (value : Field → String) (kubeSystem extraValues : Bool) (block : List String) : List String :=
  renderLines value (header "batch/v1" "Job" ++ jobHead kubeSystem extraValues) ++ block.map indent

def Config.scriptLines (c : Config) : List String := renderLines c.value script

def Config.jobLines (c : Config) : List String :=
  HelmJob.jobLines c.value (c.targetNamespace = "kube-system") c.hasExtraValues c.scriptLines

/-- The first line of the template prints nothing but its end. -/
def Config.getTemplatedJob (c : Config) : String :=
  "\n" ++ join (bindingLines c.value ++ ["---"] ++ accountLines c.value ++ ["---"] ++ c.jobLines) "\n" ++ "\n"

/-- `yaml.NewDecodingSerializer`, and what is read of an unstructured object: its kind, namespace and
name, and the last word of the command of its first container. -/
structure Decoder (Object : Type) where
  decode : String → Except String Object
  kind : Object → String
  namespaceName : Object → String
  name : Object → String
  script : Object → Option String

inductive Cause where
  | decode (detail : String)
  | api (error : APIError)

abbrev Error := Err Cause

variable {Object : Type}

inductive Call (Object : Type) where
  | create (obj : Object)
  | update (obj : Object)

abbrev Answer (_ : Call Object) : Type := Except APIError Unit

abbrev ApplyProgram (Object : Type) := Program (Call Object) Answer

/-- `failed to <verb> autoscaler resource <namespace>/<name>`. -/
def resourceError (d : Decoder Object) (verb : String) (obj : Object) (error : APIError) : Error :=
  (Err.of (.api error)).wrap
    ("failed to " ++ verb ++ " autoscaler resource " ++ d.namespaceName obj ++ "/" ++ d.name obj)

def applyObject (d : Decoder Object) (obj : Object) : ApplyProgram Object (Option Error) := do
  match ← request (Call.create obj) with
  | .ok () => return none
  | .error err =>
    if err = .store .alreadyExists then
      match ← request (Call.update obj) with
      | .ok () => return none
      | .error err => return some (resourceError d "update" obj err)
    else return some (resourceError d "create" obj err)

/-- The loop of `ApplyTemplate` over the documents. -/
def applyDocuments (d : Decoder Object) : List String → ApplyProgram Object (Option Error)
  | [] => return none
  | doc :: rest => do
    let doc := trimSpace doc
    if doc = "" then applyDocuments d rest
    else
      match d.decode doc with
      | .error detail =>
        return some ((Err.of (.decode detail)).wrap "failed to decode rendered job document")
      | .ok obj =>
        match ← applyObject d obj with
        | some err => return some err
        | none => applyDocuments d rest

def Config.applyTemplate (d : Decoder Object) (c : Config) : ApplyProgram Object (Option Error) :=
  applyDocuments d (splitText c.getTemplatedJob "---")

/-- What the API server answers: the call is done, the name is taken, or the call fails. -/
inductive Reply where
  | done
  | taken
  | failed
  deriving DecidableEq

/-- The objects that have been applied, in order. -/
def serve (applied : List Object) : (call : Call Object) → Reply → Answer call × List Object
  | .create obj,.done => (.ok (),applied ++ [obj])
  | .create _,.taken => (.error (.store .alreadyExists),applied)
  | .create _,.failed => (.error .unavailable,applied)
  | .update obj,.done => (.ok (),applied ++ [obj])
  | .update _,_ => (.error .unavailable,applied)

/-- No call fails: an object is created, or it exists and is updated. -/
def Succeeds (_ : List Object) : Call Object → Reply → Prop
  | .create _,reply => reply ≠ .failed
  | .update _,reply => reply = .done

end Kommodity.HelmJob
