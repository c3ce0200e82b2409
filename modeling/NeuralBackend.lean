import NeuralBackend.Logging.Application
import NeuralBackend.Logging.Filter
import NeuralBackend.Support.ConvolutionMethod
import NeuralBackend.Support.Operation
import NeuralBackend.Workload.Pipeline
import NeuralBackend.Proofs.Kernel.BroadcastChain
import NeuralBackend.Proofs.Kernel.ComputedOutput
import NeuralBackend.Proofs.Kernel.FullyConnected
import NeuralBackend.Proofs.Kernel.MirroredPermutation
import NeuralBackend.Proofs.Kernel.PoolingWindows
import NeuralBackend.Proofs.Products
import NeuralBackend.Proofs.Support.Arity
import NeuralBackend.Proofs.Support.Consultation
import NeuralBackend.Proofs.Support.Convolution
import NeuralBackend.Proofs.Support.Dependence
import NeuralBackend.Proofs.Support.DepthwiseConvolution
import NeuralBackend.Proofs.Support.DirectConvolution
import NeuralBackend.Proofs.Support.ElementCounts
import NeuralBackend.Proofs.Support.ElementTypes
import NeuralBackend.Proofs.Support.LeadingOnes
import NeuralBackend.Proofs.Support.ParameterVectors
import NeuralBackend.Proofs.Support.Permutation
import NeuralBackend.Proofs.Support.Pooling
import NeuralBackend.Proofs.Support.Trace
import NeuralBackend.Proofs.Support.Transposition
import NeuralBackend.Proofs.Workload.Admission
import NeuralBackend.Proofs.Workload.Binding
import NeuralBackend.Proofs.Workload.Composition
import NeuralBackend.Proofs.Workload.Construction
import NeuralBackend.Proofs.Workload.Outcome
import NeuralBackend.Proofs.Workload.RoundTrip
import NeuralBackend.Proofs.Workload.Run
import NeuralBackend.Proofs.Support.Bias
